import TenantGuard.Proofs.Catalog.Rules
import TenantGuard.Proofs.Config.Valid
import TenantGuard.Proofs.Filter.Reading
import TenantGuard.Proofs.Predicate.Meaning

/-!
# The domains of rules

The domain of a rule is read back as the terms of its filter, all about the rule's tenant
attribute, provided that the attribute has no quote in its name.  The proviso cannot be
dropped: a rule always compares its attribute with something, and the settings may name any
attribute that is not blank.
-/

namespace TenantGuard

namespace Filter

/-- A formula about an attribute compares it with something: a combinator needs formulas
behind it. -/
theorem exists_condition_of_formulaValues? {assignment : Assignment} {terms : List Term}
    {field : String} {values : List Bool} (read : formulaValues? assignment terms = some values)
    (nonempty : values ≠ []) (concerned : ∀ term ∈ terms, term.Concerns field) :
    ∃ comparison, .condition comparison ∈ terms := by
  induction terms generalizing values with
  | nil =>
      cases read
      exact absurd rfl nonempty
  | cons term rest ih =>
      rw [List.forall_mem_cons] at concerned
      cases term with
      | always => exact concerned.1.elim
      | condition comparison => exact ⟨comparison, List.mem_cons_self⟩
      | operator combinator =>
          rw [formulaValues?] at read
          split at read
          next left right others behind =>
            obtain ⟨comparison, member⟩ := ih behind (List.cons_ne_nil _ _) concerned.2
            exact ⟨comparison, List.mem_cons_of_mem _ member⟩
          next => cases read

/-- Terms about one attribute can be written if and only if it has no quote. -/
theorem quotable_iff_of_concerns {terms : List Term} {field : String}
    (concerned : ∀ term ∈ terms, term.Concerns field)
    (compares : ∃ comparison, .condition comparison ∈ terms) :
    (∀ term ∈ terms, term.Quotable) ↔ quote ∉ field.toList := by
  constructor
  · intro quotable
    obtain ⟨comparison, member⟩ := compares
    have about : comparison.field = field := concerned _ member
    rw [← about]
    exact quotable _ member
  · intro plain term member
    cases term with
    | condition comparison =>
        have about : comparison.field = field := concerned _ member
        rw [Term.Quotable, about]
        exact plain
    | always | operator _ => trivial

end Filter

namespace Rule

open Predicate

variable {entity : String} {securityClass : SecurityClass} {settings : TenancySettings}
  {rules : List Rule} {rule : Rule}

/-- The terms of a rule are one formula about the rule's attribute. -/
theorem formula_of_compile (compiled : compile entity securityClass settings = .ok rules)
    (listed : rule ∈ rules) :
    (∀ term ∈ rule.filter.terms, term.Concerns rule.tenantField) ∧
      ∀ assignment : Filter.Assignment, ∃ value,
        Filter.formulaValues? assignment rule.filter.terms = some [value] := by
  obtain ⟨template, _, produced⟩ := template_of_compile compiled listed
  obtain ⟨_, _, rendered⟩ := rendered_of_ofTemplate produced
  obtain ⟨tokens, expr, _, compiledTokens, isFilter⟩ := compile_of_render rendered
  rw [isFilter]
  refine ⟨Filter.concerns_ofExpr expr, ?_⟩
  intro assignment
  exact ⟨_, Filter.formulaValues?_terms (derives_of_compile compiledTokens).populated⟩

/-- Every entity type has a rule for each template of its class, whatever its name, its
class and the settings.  The terms of a rule are about the attribute that the settings name
for the rule's mode, and its domain is read as these terms if and only if the attribute has
no quote in its name. -/
theorem compile_reads_back (entity : String) (securityClass : SecurityClass)
    (settings : TenancySettings) :
    ∃ rules, compile entity securityClass settings = .ok rules ∧
      rules.map (·.mode) = securityClass.templates.map (·.mode) ∧
      ∀ rule ∈ rules, rule.tenantField = settings.tenantField entity rule.mode ∧
        (∀ term ∈ rule.filter.terms, term.Concerns rule.tenantField) ∧
        (Filter.read? rule.domain = some rule.filter.terms ↔
          Filter.quote ∉ rule.tenantField.toList) := by
  obtain ⟨rules, compiled⟩ := compile_succeeds entity securityClass settings
  refine ⟨rules, compiled, modes_of_compile compiled, ?_⟩
  intro rule listed
  obtain ⟨template, _, produced⟩ := template_of_compile compiled listed
  obtain ⟨_, field, _⟩ := rendered_of_ofTemplate produced
  obtain ⟨concerned, formula⟩ := formula_of_compile compiled listed
  obtain ⟨value, read⟩ := formula fun _ => true
  have compares := Filter.exists_condition_of_formulaValues? read (List.cons_ne_nil _ _) concerned
  refine ⟨field, concerned, ?_⟩
  rw [domain, Filter.read?_domain]
  exact Filter.quotable_iff_of_concerns concerned compares

/-- Read access to countries is a formula with an operand that is a formula itself. -/
theorem compile_reads_back_countries :
    ∃ rules, compile "res.country" .tenantScopedReadShared {} = .ok rules ∧
      ∃ rule ∈ rules, Filter.quote ∉ rule.tenantField.toList ∧
        rule.domain = "['|', ('company_id','=',1), '&', ('company_id','in',company_ids), " ++
          "'|', ('company_id','=',company_id), '|', ('company_id','parent_of',company_id), " ++
          "('company_id','child_of',company_id)]" ∧
        Filter.read? rule.domain = some rule.filter.terms := by
  obtain ⟨rules, compiled, _, read⟩ :=
    compile_reads_back "res.country" .tenantScopedReadShared {}
  have known : ∃ rule rest, compile "res.country" .tenantScopedReadShared {} =
      .ok (rule :: rest) ∧ Filter.quote ∉ rule.tenantField.toList ∧
        rule.domain = "['|', ('company_id','=',1), '&', ('company_id','in',company_ids), " ++
          "'|', ('company_id','=',company_id), '|', ('company_id','parent_of',company_id), " ++
          "('company_id','child_of',company_id)]" :=
    ⟨_, _, rfl, by decide, by decide +kernel⟩
  obtain ⟨rule, rest, isFirst, plain, written⟩ := known
  rw [isFirst] at compiled
  cases compiled
  refine ⟨_, isFirst, rule, List.mem_cons_self, plain, written, ?_⟩
  exact (read rule List.mem_cons_self).2.2.mpr plain

/-- Settings whose attribute has a quote in its name are valid, but the domain of the rule
cannot be read. -/
theorem compile_unreadable_of_quote :
    let settings : TenancySettings := { defaultField := "owner's_id" }
    settings.validate = .ok () ∧
      ∃ rules, compile "sale.order" .tenantScoped settings = .ok rules ∧
        ∃ rule ∈ rules, Filter.read? rule.domain = none := by
  refine ⟨TenancySettings.validate_builtin (by decide), _, rfl, _, List.mem_cons_self, ?_⟩
  decide +kernel

end Rule

end TenantGuard
