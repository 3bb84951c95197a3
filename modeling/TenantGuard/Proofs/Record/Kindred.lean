import Mathlib.Data.List.Forall2
import TenantGuard.Proofs.Record.Keys

/-!
# Desired records of two configurations

The configuration of the tenancy decides about the filters of the global rules, which are
texts, and about nothing else in the desired records.  Two configurations therefore ask
for the same records, by the same keys, and differ only in what some texts say.
-/

namespace TenantGuard

/-- The compiled rules of a class are the same up to their filters. -/
theorem Rule.alike_of_compile {entity : String} {securityClass : SecurityClass}
    {settings others : TenancySettings} {rules otherRules : List Rule}
    (compiled : compile entity securityClass settings = .ok rules)
    (compiledToo : compile entity securityClass others = .ok otherRules) :
    List.Forall₂ (fun first second => first.mode = second.mode ∧
      first.securityClass = second.securityClass ∧ first.permissions = second.permissions)
      rules otherRules := by
  have modes : List.Forall₂ (· = ·) (rules.map (·.mode)) (otherRules.map (·.mode)) := by
    rw [List.forall₂_eq_eq_eq, modes_of_compile compiled, modes_of_compile compiledToo]
  rw [List.forall₂_map_left_iff, List.forall₂_map_right_iff, List.forall₂_iff_zip] at modes
  rw [List.forall₂_iff_zip]
  refine ⟨modes.1, ?_⟩
  intro first second paired
  have sameMode := modes.2 paired
  obtain ⟨listed, listedToo⟩ := List.of_mem_zip paired
  obtain ⟨_, _, produced⟩ := template_of_compile compiled listed
  obtain ⟨_, _, producedToo⟩ := template_of_compile compiledToo listedToo
  refine ⟨sameMode, ?_, ?_⟩
  · rw [(ofTemplate_eq_ok produced).2, (ofTemplate_eq_ok producedToo).2]
  · rw [(rendered_of_ofTemplate produced).1, (rendered_of_ofTemplate producedToo).1, sameMode]

namespace DesiredRecord

/-- The same record, but for what some of its texts say. -/
structure Kindred (first second : DesiredRecord) : Prop where
  kind : first.kind = second.kind
  criteria : first.criteria = second.criteria
  values : ∀ field : String, first.values[field]? = second.values[field]? ∨
    ∃ text other : String, first.values[field]? = some (.text text) ∧
      second.values[field]? = some (.text other)

variable {first second : DesiredRecord}

theorem Kindred.refl (desired : DesiredRecord) : desired.Kindred desired :=
  ⟨rfl, rfl, fun _ => .inl rfl⟩

/-- The same records are under both keys. -/
theorem Kindred.matched (kindred : first.Kindred second) : first.matched = second.matched := by
  funext values
  rw [DesiredRecord.matched, DesiredRecord.matched, kindred.criteria]

/-- The records have the same fields. -/
theorem Kindred.mem_fields (kindred : first.Kindred second) {field : String} :
    field ∈ first.fields ↔ field ∈ second.fields := by
  rw [fields, fields, Std.ExtTreeMap.mem_keys, Std.ExtTreeMap.mem_keys,
    Std.ExtTreeMap.mem_iff_isSome_getElem?, Std.ExtTreeMap.mem_iff_isSome_getElem?]
  rcases kindred.values field with same | ⟨_, _, text, other⟩
  · rw [same]
  · rw [text, other]
    exact Iff.rfl

/-- A global rule is known by everything but its filter. -/
theorem globalRule_kindred (entityType : EntityType) {rule other : Rule}
    (sameMode : rule.mode = other.mode) (sameClass : rule.securityClass = other.securityClass)
    (samePermissions : rule.permissions = other.permissions) :
    (globalRule entityType rule).Kindred (globalRule entityType other) := by
  have sameName : globalRuleName entityType.name rule = globalRuleName entityType.name other := by
    rw [globalRuleName, globalRuleName, sameMode, sameClass]
  have distinct : (["name", "model_id", "domain_force", "groups", "perm_read", "perm_write",
      "perm_create", "perm_unlink"] : List String).Nodup := by
    decide
  have written : ∀ (rule : Rule) (field : String) (value : FieldValue),
      (globalRule entityType rule).values[field]? = some value ↔
        (field, value) ∈ [("name", FieldValue.text (globalRuleName entityType.name rule)),
          ("model_id", .ref entityType.id), ("domain_force", .text rule.domain),
          ("groups", .relation [])] ++ permissionFields rule.permissions := by
    intro rule field value
    apply Values.getElem?_ofList
    exact distinct
  refine ⟨rfl, ?_, ?_⟩
  · simp only [globalRule, sameName]
  · intro field
    by_cases isFilter : field = "domain_force"
    · right
      rw [isFilter]
      exact ⟨rule.domain, other.domain, (written ..).mpr (by simp), (written ..).mpr (by simp)⟩
    · left
      apply Option.ext
      intro value
      rw [written, written, sameName, samePermissions]
      simp [isFilter]

end DesiredRecord

/-- Whatever the configurations, an entity type has the same desired records but for their
filters. -/
theorem Policy.kindred_desiredRecords {first second : Policy}
    (sameClassifier : first.classifier = second.classifier) (entityType : EntityType)
    (group : Option RecordId) :
    List.Forall₂ DesiredRecord.Kindred (first.desiredRecords entityType group)
      (second.desiredRecords entityType group) := by
  obtain ⟨rules, compiled⟩ := Rule.compile_succeeds entityType.name
    (first.classifier.classify entityType.name) first.config.tenancy
  obtain ⟨otherRules, compiledToo⟩ := Rule.compile_succeeds entityType.name
    (second.classifier.classify entityType.name) second.config.tenancy
  rw [desiredRecords_of_compile compiled, desiredRecords_of_compile compiledToo]
  rw [sameClassifier] at compiled
  apply List.rel_append
  · rw [DesiredRecord.globalRules, DesiredRecord.globalRules, List.forall₂_map_left_iff,
      List.forall₂_map_right_iff]
    apply (Rule.alike_of_compile compiled compiledToo).imp
    rintro rule other ⟨sameMode, sameClass, samePermissions⟩
    exact DesiredRecord.globalRule_kindred entityType sameMode sameClass samePermissions
  · exact List.forall₂_same.mpr fun _ _ => .refl _

end TenantGuard
