import TenantGuard.Catalog.Finding
import TenantGuard.Proofs.Catalog.Rules

/-!
# What the self-check finds

All classes compile for every entity type, so the self-check finds no errors.  Its warnings are
decided by the modes of templates, but they are about the attributes of rules: an entity type is
warned about exactly if its override reads through an attribute of its own that none of its rules
filters on.
-/

namespace TenantGuard

/-- The override of an entity type names an attribute for reading that is not the one for
editing, and none of the entity type's rules filters on it. -/
def TenancySettings.LeavesReadUnused (settings : TenancySettings) (classifier : Classifier)
    (entity : String) (fields : TenantFields) : Prop :=
  settings.overrides[entity]? = some fields ∧ fields.read ≠ fields.edit ∧
    ∃ rules, Rule.compile entity (classifier.classify entity) settings = .ok rules ∧
      ∀ rule ∈ rules, rule.tenantField ≠ fields.read

namespace Rule

variable {entity : String} {securityClass : SecurityClass} {settings : TenancySettings}
  {rules : List Rule} {fields : TenantFields}

/-- Rules that only govern reading filter on the override's read attribute, all others on its
edit attribute. -/
theorem tenantField_of_override (compiled : compile entity securityClass settings = .ok rules)
    (overridden : settings.overrides[entity]? = some fields) :
    ∀ rule ∈ rules, rule.tenantField = if rule.mode = .read then fields.read else fields.edit := by
  intro rule listed
  obtain ⟨template, _, produced⟩ := template_of_compile compiled listed
  rw [(rendered_of_ofTemplate produced).2.1, TenancySettings.tenantField, overridden]

/-- No rule filters on a read attribute of its own exactly if no template only governs
reading. -/
theorem tenantField_ne_read_iff (compiled : compile entity securityClass settings = .ok rules)
    (overridden : settings.overrides[entity]? = some fields) (differ : fields.read ≠ fields.edit) :
    (∀ rule ∈ rules, rule.tenantField ≠ fields.read) ↔
      ¬ securityClass.templates.any (·.mode = .read) := by
  have attributes := tenantField_of_override compiled overridden
  have editing : (¬ securityClass.templates.any (·.mode = .read)) ↔
      ∀ rule ∈ rules, rule.mode ≠ .read := by
    have modes : .read ∈ rules.map (·.mode) ↔ .read ∈ securityClass.templates.map (·.mode) := by
      rw [modes_of_compile compiled]
    simp only [List.mem_map] at modes
    simpa using not_congr modes.symm
  rw [editing]
  constructor
  · intro unused rule listed isRead
    apply unused rule listed
    rw [attributes rule listed, if_pos isRead]
  · intro edits rule listed
    rw [attributes rule listed, if_neg (edits rule listed)]
    exact differ.symm

end Rule

namespace CatalogFinding

/-- No class fails to compile. -/
theorem ofRules_eq_nil (compiledAs : String) (securityClass : SecurityClass)
    (entity : Option String) (settings : TenancySettings) :
    ofRules compiledAs securityClass entity settings = [] := by
  obtain ⟨rules, compiled⟩ := Rule.compile_succeeds compiledAs securityClass settings
  rw [ofRules, compiled]

/-- Whether an override is warned about. -/
def Warns (classifier : Classifier) (override : String × TenantFields) : Prop :=
  override.2.read ≠ override.2.edit ∧
    ¬ (classifier.classify override.1).templates.any (·.mode = .read)

instance (classifier : Classifier) : DecidablePred (Warns classifier) :=
  fun _ => inferInstanceAs (Decidable (_ ∧ _))

/-- The warning about an override. -/
def warning (classifier : Classifier) (override : String × TenantFields) : CatalogFinding :=
  let securityClass := classifier.classify override.1
  ⟨.warning, securityClass, some override.1,
    s!"read attribute '{override.2.read}' is unused: {securityClass.name} rules are " ++
      s!"read-and-edit and filter on '{override.2.edit}'"⟩

theorem ofUnusedRead_eq (classifier : Classifier) (entity : String) (fields : TenantFields) :
    ofUnusedRead (classifier.classify entity) entity fields =
      if Warns classifier (entity, fields) then [warning classifier (entity, fields)] else [] :=
  rfl

theorem warns_iff {classifier : Classifier} {settings : TenancySettings} {entity : String}
    {fields : TenantFields} (overridden : settings.overrides[entity]? = some fields) :
    Warns classifier (entity, fields) ↔ settings.LeavesReadUnused classifier entity fields := by
  constructor
  · rintro ⟨differ, editing⟩
    obtain ⟨rules, compiled⟩ := Rule.compile_succeeds entity (classifier.classify entity) settings
    exact ⟨overridden, differ, rules, compiled,
      (Rule.tenantField_ne_read_iff compiled overridden differ).mpr editing⟩
  · rintro ⟨_, differ, rules, compiled, unused⟩
    exact ⟨differ, (Rule.tenantField_ne_read_iff compiled overridden differ).mp unused⟩

/-- The self-check finds the overrides that are warned about, in their order, and nothing
else. -/
theorem all_eq (classifier : Classifier) (settings : TenancySettings) :
    all classifier settings =
      (settings.overrides.toList.filter (Warns classifier)).map (warning classifier) := by
  have classes : (SecurityClass.all.flatMap fun securityClass =>
      ofRules placeholder securityClass none settings) = [] := by
    simp [ofRules_eq_nil]
  rw [all, classes, List.nil_append]
  induction settings.overrides.toList with
  | nil => rfl
  | cons override overrides ih =>
      obtain ⟨entity, fields⟩ := override
      rw [List.flatMap_cons, ih, List.filter_cons]
      dsimp only
      rw [ofRules_eq_nil, List.nil_append, ofUnusedRead_eq]
      by_cases warns : Warns classifier (entity, fields)
      · rw [if_pos warns, if_pos (decide_eq_true warns)]
        rfl
      · rw [if_neg warns, if_neg (by simpa using warns)]
        rfl

/-- The self-check is exact.  Whatever the classifier and the settings, it finds no errors, and
it warns once, in ascending order, about each entity type whose override leaves its read
attribute unused; there are no other findings. -/
theorem all_exact (classifier : Classifier) (settings : TenancySettings) :
    ∃ overrides : List (String × TenantFields),
      (overrides.map (·.1)).Pairwise (· < ·) ∧
      (∀ entity fields, (entity, fields) ∈ overrides ↔
        settings.LeavesReadUnused classifier entity fields) ∧
      all classifier settings = overrides.map (warning classifier) := by
  refine ⟨_, ?_, ?_, all_eq classifier settings⟩
  · rw [List.pairwise_map]
    apply (List.Pairwise.filter _ Std.ExtTreeMap.ordered_keys_toList).imp
    intro first second before
    exact compareOfLessAndEq_eq_lt.mp before
  · intro entity fields
    rw [List.mem_filter, Std.ExtTreeMap.mem_toList_iff_getElem?_eq_some, decide_eq_true_eq]
    constructor
    · rintro ⟨overridden, warns⟩
      exact (warns_iff overridden).mp warns
    · intro unused
      exact ⟨unused.1, (warns_iff unused.1).mpr unused⟩

/-- An entity type on the list of two classes is warned about if the class that wins has no rule
for reading alone. -/
example :
    let classifier := (Classifier.empty.withMembers .tenants ["hr.leave"]).withMembers .noAccess
      ["hr.leave"]
    let settings : TenancySettings :=
      { overrides := .ofList [("hr.leave", TenantFields.mk "company_ids" "company_id")] }
    (all classifier settings).map (·.entity) = [some "hr.leave"] := by
  intro classifier settings
  rw [all_eq]
  decide +kernel

end CatalogFinding

end TenantGuard
