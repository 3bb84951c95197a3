import TenantGuard.Catalog.Classifier
import TenantGuard.Proofs.Catalog.Rules
import TenantGuard.Proofs.Predicate.Meaning

/-!
# Isolation of tenants

What a rule lets through depends on five facts about a record, one for each atom of
the predicate language.  Read in this way the templates of a class are a small table,
from which it can be seen that nobody edits outside the tenants allowed to them and
that whoever may edit a record may read it.  Since rendering preserves meaning, the
same holds of the filters that the store evaluates.
-/

namespace TenantGuard

/-- An operation on the records of an entity type. -/
inductive Operation where
  | read
  | write
  | create
  | unlink
  deriving DecidableEq, Repr

/-- Whether the operation changes records. -/
def Operation.edits : Operation → Bool
  | .read => false
  | .write | .create | .unlink => true

def Permissions.grants (permissions : Permissions) : Operation → Bool
  | .read => permissions.read
  | .write => permissions.write
  | .create => permissions.create
  | .unlink => permissions.unlink

namespace RuleTemplate

/-- Whether the predicate of a template lets a record through, given which atoms
hold of it. -/
def admits? (meaning : Predicate.Atom → Bool) (template : RuleTemplate) : Option Bool :=
  match Predicate.tokenize template.predicate with
  | .ok tokens => Predicate.value? meaning tokens
  | .error _ => none

end RuleTemplate

namespace SecurityClass

variable (meaning : Predicate.Atom → Bool)

/-- What the templates of a class let through. -/
def admissions : SecurityClass → List (AccessMode × Bool)
  | .tenants =>
      [(.read, meaning .allowedTenants),
        (.edit, meaning .allowedTenants && meaning .selectedTenantHierarchy)]
  | .sharedPartner =>
      [(.read, meaning .unassigned ||
          (meaning .allowedTenants && meaning .selectedTenantHierarchy)),
        (.edit, meaning .allowedTenants && meaning .selectedTenantHierarchy)]
  | .tenantScoped =>
      [(.readAndEdit, meaning .allowedTenants && meaning .selectedTenantHierarchy)]
  | .tenantScopedReadShared =>
      [(.read, meaning .systemTenant ||
          (meaning .allowedTenants && meaning .selectedTenantHierarchy)),
        (.edit, meaning .allowedTenants && meaning .selectedTenantHierarchy)]
  | .globalReadShared =>
      [(.read, meaning .systemTenant),
        (.edit, meaning .systemTenant &&
          (meaning .allowedTenants && meaning .selectedTenant))]
  | .noAccess =>
      [(.readAndEdit, meaning .systemTenant &&
          (meaning .allowedTenants && meaning .selectedTenant))]

theorem templates_admit (securityClass : SecurityClass) :
    securityClass.templates.map (fun template => (template.mode, template.admits? meaning)) =
      (securityClass.admissions meaning).map fun entry => (entry.1, some entry.2) := by
  cases securityClass <;> rfl

/-- Every template lets through what the table says. -/
theorem mem_admissions {securityClass : SecurityClass} {template : RuleTemplate}
    (listed : template ∈ securityClass.templates) :
    ∃ value, template.admits? meaning = some value ∧
      (template.mode, value) ∈ securityClass.admissions meaning := by
  have entry : (template.mode, template.admits? meaning) ∈
      (securityClass.admissions meaning).map fun entry => (entry.1, some entry.2) := by
    rw [← templates_admit]
    exact List.mem_map_of_mem listed
  obtain ⟨⟨mode, value⟩, inTable, same⟩ := List.mem_map.mp entry
  simp only [Prod.mk.injEq] at same
  rw [← same.1, ← same.2]
  exact ⟨value, rfl, inTable⟩

variable {meaning}

/-- Whoever may edit a record has been allowed its tenant. -/
theorem allowed_of_admissions {securityClass : SecurityClass} {mode : AccessMode}
    (edits : mode ≠ .read) (admitted : (mode, true) ∈ securityClass.admissions meaning) :
    meaning .allowedTenants = true := by
  cases securityClass <;> simp_all [admissions]

/-- Whoever may edit a record may read it. -/
theorem reads_of_admissions {securityClass : SecurityClass} {editing reading : AccessMode}
    {readable : Bool} (edits : editing ≠ .read) (reads : reading ≠ .edit)
    (admitted : (editing, true) ∈ securityClass.admissions meaning)
    (listed : (reading, readable) ∈ securityClass.admissions meaning) : readable = true := by
  cases securityClass <;> simp_all [admissions]

/-- Of the templates of a class exactly one grants any operation. -/
theorem countP_grants (securityClass : SecurityClass) (operation : Operation) :
    (securityClass.templates.map (·.mode)).countP (·.permissions.grants operation) = 1 := by
  cases securityClass <;> cases operation <;> rfl

end SecurityClass

/-- If reading and editing go by the same attribute, every mode goes by it. -/
theorem TenancySettings.tenantField_eq_edit {settings : TenancySettings} {entity : String}
    (same : settings.tenantField entity .read = settings.tenantField entity .edit)
    (mode : AccessMode) : settings.tenantField entity mode = settings.tenantField entity .edit := by
  cases mode with
  | read => exact same
  | edit => rfl
  | readAndEdit => rfl

theorem AccessMode.ne_read_of_grants {mode : AccessMode} {operation : Operation}
    (edits : operation.edits) (grants : mode.permissions.grants operation) : mode ≠ .read := by
  intro isRead
  rw [isRead] at grants
  cases operation with
  | read => cases edits
  | write | create | unlink => cases grants

theorem AccessMode.ne_edit_of_grants_read {mode : AccessMode}
    (grants : mode.permissions.grants .read) : mode ≠ .edit := by
  intro isEdit
  rw [isEdit] at grants
  cases grants

namespace Rule

open Predicate

variable {entity : String} {securityClass : SecurityClass} {settings : TenancySettings}
  {rules : List Rule} {rule : Rule}

/-- Exactly one rule of a class grants any operation. -/
theorem countP_grants_of_compile (compiled : compile entity securityClass settings = .ok rules)
    (operation : Operation) : rules.countP (·.permissions.grants operation) = 1 := by
  rw [← securityClass.countP_grants operation, ← modes_of_compile compiled, List.countP_map]
  apply List.countP_congr
  intro rule listed
  obtain ⟨template, _, produced⟩ := template_of_compile compiled listed
  rw [(rendered_of_ofTemplate produced).1]
  rfl

/-- The terms of a rule are one formula, of the value that the table has for the rule's
mode. -/
theorem mem_admissions_of_compile
    (compiled : compile entity securityClass settings = .ok rules) (listed : rule ∈ rules)
    (assignment : Filter.Assignment) :
    ∃ value, Filter.formulaValues? assignment rule.filter.terms = some [value] ∧
      (rule.mode, value) ∈ securityClass.admissions
        (Atom.holds ⟨rule.tenantField, settings.systemTenant⟩ assignment) := by
  obtain ⟨template, inClass, produced⟩ := template_of_compile compiled listed
  obtain ⟨_, _, rendered⟩ := rendered_of_ofTemplate produced
  obtain ⟨tokens, expr, tokenized, compiledTokens, isFilter⟩ := compile_of_render rendered
  obtain ⟨value, admitted, inTable⟩ := SecurityClass.mem_admissions
    (Atom.holds ⟨rule.tenantField, settings.systemTenant⟩ assignment) inClass
  rw [RuleTemplate.admits?, tokenized] at admitted
  dsimp only at admitted
  rw [value?_of_compile compiledTokens, Option.some.injEq] at admitted
  refine ⟨value, ?_, ?_⟩
  · rw [isFilter, ← admitted]
    exact Filter.formulaValues?_terms (derives_of_compile compiledTokens).populated
  · rw [(ofTemplate_eq_ok produced).1]
    exact inTable

/-- Every entity type has its rules, whatever its name, its class and the settings.
Exactly one of them grants each operation.  The terms of each are one formula; if that
of a rule granting a change is true, the rule's attribute is among the allowed tenants,
and if reading and editing go by the same attribute, that of every rule granting to
read is true as well. -/
theorem compile_isolates (classifier : Classifier) (settings : TenancySettings)
    (entity : String) :
    ∃ rules, compile entity (classifier.classify entity) settings = .ok rules ∧
      (∀ operation : Operation, rules.countP (·.permissions.grants operation) = 1) ∧
      ∀ rule ∈ rules, rule.tenantField = settings.tenantField entity rule.mode ∧
        ∀ assignment : Filter.Assignment,
          (∃ value, Filter.formulaValues? assignment rule.filter.terms = some [value]) ∧
          ∀ operation : Operation, operation.edits → rule.permissions.grants operation →
            Filter.formulaValues? assignment rule.filter.terms = some [true] →
              assignment ⟨rule.tenantField, .isIn, .allowedTenants⟩ = true ∧
              (settings.tenantField entity .read = settings.tenantField entity .edit →
                ∀ reading ∈ rules, reading.permissions.grants .read →
                  Filter.formulaValues? assignment reading.filter.terms = some [true]) := by
  obtain ⟨rules, compiled⟩ := compile_succeeds entity (classifier.classify entity) settings
  refine ⟨rules, compiled, countP_grants_of_compile compiled, ?_⟩
  intro rule listed
  obtain ⟨template, _, produced⟩ := template_of_compile compiled listed
  obtain ⟨granted, field, _⟩ := rendered_of_ofTemplate produced
  refine ⟨field, ?_⟩
  intro assignment
  obtain ⟨value, evaluated, admitted⟩ := mem_admissions_of_compile compiled listed assignment
  refine ⟨⟨value, evaluated⟩, ?_⟩
  intro operation edits grants holds
  rw [evaluated] at holds
  cases holds
  rw [granted] at grants
  have editing : rule.mode ≠ .read := AccessMode.ne_read_of_grants edits grants
  refine ⟨SecurityClass.allowed_of_admissions editing admitted, ?_⟩
  intro sameField reading readingListed readingGrants
  obtain ⟨readingTemplate, _, readingProduced⟩ := template_of_compile compiled readingListed
  obtain ⟨readingGranted, readingField, _⟩ := rendered_of_ofTemplate readingProduced
  obtain ⟨readable, readingEvaluated, readingAdmitted⟩ :=
    mem_admissions_of_compile compiled readingListed assignment
  have sameTenantField : reading.tenantField = rule.tenantField := by
    rw [readingField, field, TenancySettings.tenantField_eq_edit sameField,
      TenancySettings.tenantField_eq_edit sameField rule.mode]
  rw [sameTenantField] at readingAdmitted
  rw [readingGranted] at readingGrants
  rw [readingEvaluated, SecurityClass.reads_of_admissions editing
    (AccessMode.ne_edit_of_grants_read readingGrants) admitted readingAdmitted]

/-- A record of the selected tenant's branch, which is among the allowed ones, may be
edited and read. -/
theorem compile_isolates_shared_orders :
    let classifier := Classifier.empty.withMembers .tenantScopedReadShared ["sale.order"]
    let assignment : Filter.Assignment := fun condition =>
      condition.relation = .isIn ∨ condition.relation = .childOf
    ∃ rules, compile "sale.order" (classifier.classify "sale.order") {} = .ok rules ∧
      ∃ editing ∈ rules, ∃ reading ∈ rules,
        editing.permissions.grants .write ∧ reading.permissions.grants .read ∧
        Filter.formulaValues? assignment editing.filter.terms = some [true] ∧
        assignment ⟨editing.tenantField, .isIn, .allowedTenants⟩ = true ∧
        Filter.formulaValues? assignment reading.filter.terms = some [true] := by
  intro classifier assignment
  obtain ⟨rules, compiled, _, isolated⟩ := compile_isolates classifier {} "sale.order"
  refine ⟨rules, compiled, ?_⟩
  let scope : Filter.Scope := ⟨"company_id", 1⟩
  let own : Expr := .group .all [.atom .allowedTenants, .atom .selectedTenantHierarchy]
  let reading : Rule := ⟨"sale.order", .tenantScopedReadShared, .read, .readOnly, "company_id",
    .ofExpr scope (.group .any [.atom .systemTenant, own])⟩
  let editing : Rule := ⟨"sale.order", .tenantScopedReadShared, .edit, .editOnly, "company_id",
    .ofExpr scope own⟩
  have known : compile "sale.order" (classifier.classify "sale.order") {} =
      .ok [reading, editing] := by
    rfl
  rw [known] at compiled
  cases compiled
  obtain ⟨_, evaluates⟩ := isolated editing (by simp)
  obtain ⟨_, isolates⟩ := evaluates assignment
  obtain ⟨allowed, reads⟩ := isolates .write rfl rfl rfl
  exact ⟨editing, by simp, reading, by simp, rfl, rfl, rfl, allowed,
    reads rfl reading (by simp) rfl⟩

end Rule

end TenantGuard
