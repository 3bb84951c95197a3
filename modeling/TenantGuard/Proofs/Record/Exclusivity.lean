import TenantGuard.Proofs.Record.Keys

/-!
# Exclusive keys

A key asks for nothing but fields of its own record.  Written over any record at all, these
bring it under the key, and no part of them takes a record away that is under the key.

The keys of a catalog exclude each other exactly if it lists no entity type twice.  Entity
types with different ids are enough, even where several have the same name.
-/

namespace TenantGuard

namespace DesiredRecord

/-- Any record that the desired fields were written over is under the key. -/
theorem Coherent.allHold_overwritten {desired : DesiredRecord} (coherent : desired.Coherent)
    (own : ∀ criterion ∈ desired.criteria, criterion.field ∈ desired.values) (values : Values) :
    Criterion.allHold desired.criteria (values.overwrite desired.values) := by
  simp only [Criterion.allHold, List.all_eq_true]
  intro criterion listed
  have present := own criterion listed
  simp only [Std.ExtTreeMap.mem_iff_isSome_getElem?, Option.isSome_iff_exists] at present
  cases present with
  | intro value present =>
      have accepted := Criterion.accepts_of_allHold coherent.meetsKey listed
      have kept : (values.overwrite desired.values)[criterion.field]? = some value := by
        simp only [Values.getElem?_overwrite, present, Option.some_or]
      simp only [Values.read_of_getElem? _ _ present] at accepted
      simpa only [Criterion.holds_eq_accepts, Values.read_of_getElem? _ _ kept] using accepted

end DesiredRecord

namespace Policy

open DesiredRecord

/-- Every criterion of a key is about a desired field. -/
theorem field_mem_of_mem_desiredRecords {policy : Policy} {entityType : EntityType}
    {group : Option RecordId} {desired : DesiredRecord}
    (membership : desired ∈ policy.desiredRecords entityType group) :
    ∀ criterion ∈ desired.criteria, criterion.field ∈ desired.values := by
  rcases cases_of_mem_desiredRecords membership with ⟨rule, rfl⟩ | ⟨manager, rfl | rfl⟩
  · simp [globalRule, Criterion.field]
  · simp [managerGrant, Criterion.field]
  · simp [managerRule, Criterion.field]

/-- No class is without templates, so every entity type has a global rule. -/
theorem desiredRecords_ne_nil (policy : Policy) (entityType : EntityType)
    (group : Option RecordId) : policy.desiredRecords entityType group ≠ [] := by
  obtain ⟨rules, compiled⟩ := Rule.compile_succeeds entityType.name
    (policy.classifier.classify entityType.name) policy.config.tenancy
  have modes := Rule.modes_of_compile compiled
  rw [desiredRecords_of_compile compiled]
  cases rules with
  | nil =>
      revert modes
      cases policy.classifier.classify entityType.name <;> simp [SecurityClass.templates]
  | cons rule rules => simp [globalRules]

/-- The keys of a catalog exclude each other exactly if it lists no entity type twice. -/
theorem flatMap_desiredRecords_exclusive_iff (policy : Policy) (entityTypes : List EntityType)
    (group : Option RecordId) :
    (entityTypes.flatMap (policy.desiredRecords · group)).Pairwise Exclusive ↔
      entityTypes.Nodup := by
  constructor
  · intro exclusive
    rw [List.pairwise_flatMap] at exclusive
    apply exclusive.2.imp
    rintro entityType _ exclude rfl
    obtain ⟨desired, listed⟩ :=
      List.exists_mem_of_ne_nil _ (policy.desiredRecords_ne_nil entityType group)
    have meetsKey := (coherent_of_mem_desiredRecords listed).meetsKey
    exact exclude desired listed desired listed rfl desired.values ⟨meetsKey, meetsKey⟩
  · exact policy.flatMap_desiredRecords_exclusive group

/-- Every entity type of a catalog has its rules, and so its records, whatever the classes and the
settings.  The fields of each record meet its own key.  So does any record that they have been
written over, and a record under the key stays under it whichever of the fields are written over
it.  If the entity types have different ids, no fields whatsoever meet the keys of two of the
records of one kind. -/
theorem desired_keys_exclusive (policy : Policy) (group : Option RecordId)
    {entityTypes : List EntityType} (distinct : (entityTypes.map (·.id)).Nodup) :
    (∀ entityType ∈ entityTypes, ∃ rules,
      Rule.compile entityType.name (policy.classifier.classify entityType.name)
          policy.config.tenancy = .ok rules ∧
        policy.desiredRecords entityType group =
          globalRules entityType rules ++ managerRecords entityType group) ∧
    (∀ desired ∈ entityTypes.flatMap (policy.desiredRecords · group),
      Criterion.allHold desired.criteria desired.values ∧
        ∀ values : Values,
          Criterion.allHold desired.criteria (values.overwrite desired.values) ∧
          ∀ part : Values, (∀ (field : String) (value : FieldValue),
              part[field]? = some value → desired.values[field]? = some value) →
            Criterion.allHold desired.criteria values →
              Criterion.allHold desired.criteria (values.overwrite part)) ∧
    (entityTypes.flatMap (policy.desiredRecords · group)).Pairwise fun first second =>
      first.kind = second.kind → ∀ values : Values,
        ¬ (Criterion.allHold first.criteria values ∧
          Criterion.allHold second.criteria values) := by
  refine ⟨?_, ?_, ?_⟩
  · intro entityType _
    obtain ⟨rules, compiled⟩ := Rule.compile_succeeds entityType.name
      (policy.classifier.classify entityType.name) policy.config.tenancy
    exact ⟨rules, compiled, desiredRecords_of_compile compiled group⟩
  · intro desired listed
    obtain ⟨entityType, _, ofEntityType⟩ := List.mem_flatMap.mp listed
    have coherent := coherent_of_mem_desiredRecords ofEntityType
    refine ⟨coherent.meetsKey, fun values => ⟨?_, ?_⟩⟩
    · exact coherent.allHold_overwritten (field_mem_of_mem_desiredRecords ofEntityType) values
    · intro part taken met
      exact Criterion.allHold_overwrite met coherent.meetsKey taken
  · have listedOnce : entityTypes.Nodup := distinct.of_map _
    exact (policy.flatMap_desiredRecords_exclusive_iff entityTypes group).mpr listedOnce

theorem desired_keys_exclusive_namesakes :
    let policy : Policy :=
      { classifier := Classifier.empty.withMembers .globalReadShared ["sale.order"], config := {} }
    let entityTypes : List EntityType :=
      [⟨1, "sale.order"⟩, ⟨2, "sale.order"⟩, ⟨3, "sale.order - company manager"⟩]
    let records := entityTypes.flatMap (policy.desiredRecords · (some 2))
    (entityTypes.map (·.id)).Nodup ∧
      records.map (fun desired => (desired.kind, desired.name)) =
        [(.rule, "sale.order - read_system_model, read_if"),
          (.rule, "sale.order - read_system_model, edit_if"),
          (.accessGrant, "sale.order - company manager"), (.rule, "sale.order - company manager"),
          (.rule, "sale.order - read_system_model, read_if"),
          (.rule, "sale.order - read_system_model, edit_if"),
          (.accessGrant, "sale.order - company manager"), (.rule, "sale.order - company manager"),
          (.rule, "sale.order - company manager - company_model, read_and_edit_if"),
          (.accessGrant, "sale.order - company manager - company manager"),
          (.rule, "sale.order - company manager - company manager")] ∧
      (∀ desired ∈ records, ∀ values : Values, Criterion.allHold desired.criteria values →
        Criterion.allHold desired.criteria (values.overwrite desired.values)) ∧
      records.Pairwise Exclusive := by
  intro policy entityTypes records
  have distinct : (entityTypes.map (·.id)).Nodup := by decide
  obtain ⟨_, keyed, exclusive⟩ := policy.desired_keys_exclusive (some 2) distinct
  refine ⟨distinct, by decide +kernel, ?_, exclusive⟩
  intro desired listed values _
  exact ((keyed desired listed).2 values).1

end Policy

end TenantGuard
