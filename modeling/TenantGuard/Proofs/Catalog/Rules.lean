import TenantGuard.Catalog.Rule
import TenantGuard.Proofs.Except

/-!
# Compiled rules

The rules of a class come from its templates one by one, in their order and with
their modes.  All templates compile for every entity type, so every class has its
rules.
-/

namespace TenantGuard

namespace Rule

theorem ofTemplate_eq_ok {entity : String} {securityClass : SecurityClass}
    {settings : TenancySettings} {template : RuleTemplate} {rule : Rule}
    (compiled : ofTemplate entity securityClass settings template = .ok rule) :
    rule.mode = template.mode ∧ rule.securityClass = securityClass := by
  rw [ofTemplate] at compiled
  split at compiled
  · cases compiled
    exact ⟨rfl, rfl⟩
  · cases compiled

/-- A rule grants what its mode does, and its filter is the template's predicate on
the attribute of the entity type. -/
theorem rendered_of_ofTemplate {entity : String} {securityClass : SecurityClass}
    {settings : TenancySettings} {template : RuleTemplate} {rule : Rule}
    (compiled : ofTemplate entity securityClass settings template = .ok rule) :
    rule.permissions = rule.mode.permissions ∧
      rule.tenantField = settings.tenantField entity rule.mode ∧
      Predicate.render template.predicate ⟨rule.tenantField, settings.systemTenant⟩ =
        .ok rule.filter := by
  rw [ofTemplate] at compiled
  split at compiled
  next filter rendered =>
    cases compiled
    exact ⟨rfl, rfl, rendered⟩
  next => cases compiled

/-- Every rule of a class comes from one of its templates. -/
theorem template_of_compile {entity : String} {securityClass : SecurityClass}
    {settings : TenancySettings} {rules : List Rule}
    (compiled : compile entity securityClass settings = .ok rules) {rule : Rule}
    (listed : rule ∈ rules) : ∃ template ∈ securityClass.templates,
      ofTemplate entity securityClass settings template = .ok rule := by
  rw [compile, Except.mapM_eq_ok] at compiled
  apply List.mem_map.mp
  rw [compiled]
  exact List.mem_map_of_mem listed

/-- The rules of a class have the modes of its templates, in their order. -/
theorem modes_of_compile {entity : String} {securityClass : SecurityClass}
    {settings : TenancySettings} {rules : List Rule}
    (compiled : compile entity securityClass settings = .ok rules) :
    rules.map (·.mode) = securityClass.templates.map (·.mode) := by
  rw [compile, Except.mapM_eq_ok] at compiled
  revert compiled
  induction securityClass.templates generalizing rules with
  | nil =>
      intro same
      rw [List.map_eq_nil_iff.mp same.symm]
      rfl
  | cons template templates ih =>
      intro same
      obtain ⟨rule, rest, rfl, first, others⟩ := List.map_eq_cons_iff.mp same.symm
      rw [List.map_cons, List.map_cons, (ofTemplate_eq_ok first.symm).1, ih others.symm]

theorem securityClass_of_compile {entity : String} {securityClass : SecurityClass}
    {settings : TenancySettings} {rules : List Rule}
    (compiled : compile entity securityClass settings = .ok rules) :
    ∀ rule ∈ rules, rule.securityClass = securityClass := by
  intro rule membership
  obtain ⟨template, _, produced⟩ := template_of_compile compiled membership
  exact (ofTemplate_eq_ok produced).2

/-- The texts that several classes share are read once for all of them. -/
theorem renders_inSelectedHierarchy (scope : Filter.Scope) :
    ∃ filter, Predicate.render SecurityClass.inSelectedHierarchy scope = .ok filter :=
  ⟨_, rfl⟩

theorem renders_systemOnly (scope : Filter.Scope) :
    ∃ filter, Predicate.render SecurityClass.systemOnly scope = .ok filter :=
  ⟨_, rfl⟩

/-- Every template has a filter, whatever the attribute and the system tenant. -/
theorem renders_of_mem_templates {securityClass : SecurityClass} {template : RuleTemplate}
    (listed : template ∈ securityClass.templates) (scope : Filter.Scope) :
    ∃ filter, Predicate.render template.predicate scope = .ok filter := by
  revert listed
  cases securityClass with
  | tenants | sharedPartner | tenantScopedReadShared =>
      simp only [SecurityClass.templates, List.mem_cons, List.not_mem_nil, or_false]
      rintro (rfl | rfl)
      · exact ⟨_, rfl⟩
      · exact renders_inSelectedHierarchy scope
  | globalReadShared =>
      simp only [SecurityClass.templates, List.mem_cons, List.not_mem_nil, or_false]
      rintro (rfl | rfl)
      · exact ⟨_, rfl⟩
      · exact renders_systemOnly scope
  | tenantScoped =>
      rw [SecurityClass.templates, List.mem_singleton]
      rintro rfl
      exact renders_inSelectedHierarchy scope
  | noAccess =>
      rw [SecurityClass.templates, List.mem_singleton]
      rintro rfl
      exact renders_systemOnly scope

/-- Every class has its rules for every entity type. -/
theorem compile_succeeds (entity : String) (securityClass : SecurityClass)
    (settings : TenancySettings) : ∃ rules, compile entity securityClass settings = .ok rules := by
  have each : ∀ template ∈ securityClass.templates,
      ∃ rule, ofTemplate entity securityClass settings template = .ok rule := by
    intro template listed
    obtain ⟨filter, rendered⟩ := renders_of_mem_templates listed
      ⟨settings.tenantField entity template.mode, settings.systemTenant⟩
    rw [ofTemplate, rendered]
    exact ⟨_, rfl⟩
  rw [compile]
  revert each
  induction securityClass.templates with
  | nil => exact fun _ => ⟨[], rfl⟩
  | cons template templates ih =>
      intro each
      rw [List.forall_mem_cons] at each
      obtain ⟨rule, first⟩ := each.1
      obtain ⟨rules, others⟩ := ih each.2
      refine ⟨rule :: rules, ?_⟩
      rw [Except.mapM_eq_ok] at others ⊢
      rw [List.map_cons, first, others, List.map_cons]

end Rule

end TenantGuard
