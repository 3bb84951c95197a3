import TenantGuard.Proofs.Record.Keys

/-!
# External identifiers

The name of an external identifier is the name of the entity type, with underscores for its
dots, and a suffix that says which of its records is meant.  No suffix ends in another one,
so the name tells both parts.  The records of a catalog therefore have different identifiers
if its entity types have different names even with underscores for the dots, and not
otherwise: the manager group has the same records of each.
-/

namespace TenantGuard

namespace DesiredRecord

/-- What may follow the entity type in an external identifier. -/
def suffixes : List String :=
  ["_global_read_rule", "_global_edit_rule", "_global_read_and_edit_rule",
    "_company_manager_access", "_company_manager_rule"]

theorem suffixes_suffixFree : Text.SuffixFree suffixes := by
  decide

/-- The suffix of a global rule. -/
def globalSuffix (mode : AccessMode) : String :=
  s!"_global_{mode.stem}_rule"

/-- The suffixes of an entity type's records.  Those of the manager group's come last, if it
is known. -/
def ownSuffixes (securityClass : SecurityClass) (managed : Bool) : List String :=
  (securityClass.templates.map (·.mode)).map globalSuffix ++
    if managed then ["_company_manager_access", "_company_manager_rule"] else []

theorem ownSuffixes_subset (securityClass : SecurityClass) (managed : Bool) :
    ∀ suffix ∈ ownSuffixes securityClass managed, suffix ∈ suffixes := by
  cases managed <;> cases securityClass <;> decide

/-- No class has two templates of one mode, so the records of an entity type have different
suffixes. -/
theorem ownSuffixes_nodup (securityClass : SecurityClass) (managed : Bool) :
    (ownSuffixes securityClass managed).Nodup := by
  cases managed <;> cases securityClass <;> decide

theorem externalId_globalRule (entityType : EntityType) (rule : Rule) :
    (globalRule entityType rule).externalId = entityType.underscored ++ globalSuffix rule.mode := by
  simp [globalRule, globalSuffix, toString, String.append_assoc]

theorem externalId_managerRecords (entityType : EntityType) (group : Option RecordId) :
    (managerRecords entityType group).map (·.externalId) =
      (if group.isSome then ["_company_manager_access", "_company_manager_rule"] else []).map
        (entityType.underscored ++ ·) := by
  cases group with
  | none | some => rfl

end DesiredRecord

namespace Policy

open DesiredRecord

variable (policy : Policy)

/-- The identifiers of an entity type's records are its name and their suffixes. -/
theorem externalId_desiredRecords (entityType : EntityType) (group : Option RecordId) :
    (policy.desiredRecords entityType group).map (·.externalId) =
      (ownSuffixes (policy.classifier.classify entityType.name) group.isSome).map
        (entityType.underscored ++ ·) := by
  obtain ⟨rules, compiled⟩ := Rule.compile_succeeds entityType.name
    (policy.classifier.classify entityType.name) policy.config.tenancy
  rw [desiredRecords_of_compile compiled, ownSuffixes, ← Rule.modes_of_compile compiled,
    List.map_append, List.map_append, externalId_managerRecords, globalRules]
  simp [externalId_globalRule, Function.comp_def]

/-- The records of two entity types have different identifiers if the entity types have
different names with underscores for the dots. -/
theorem externalId_ne_of_underscored_ne {first second : EntityType} {group : Option RecordId}
    (different : first.underscored ≠ second.underscored) {identifier : String}
    (inFirst : identifier ∈ (policy.desiredRecords first group).map (·.externalId)) :
    identifier ∉ (policy.desiredRecords second group).map (·.externalId) := by
  rw [externalId_desiredRecords, List.mem_map] at inFirst
  rw [externalId_desiredRecords, List.mem_map]
  obtain ⟨suffix, listed, rfl⟩ := inFirst
  rintro ⟨otherSuffix, otherListed, same⟩
  have parts := suffixes_suffixFree.append_inj (ownSuffixes_subset _ _ _ otherListed)
    (ownSuffixes_subset _ _ _ listed) same
  exact different parts.1.symm

/-- The records of an entity type have different identifiers. -/
theorem externalIds_nodup (entityType : EntityType) (group : Option RecordId) :
    ((policy.desiredRecords entityType group).map (·.externalId)).Nodup := by
  rw [externalId_desiredRecords, List.Nodup, List.pairwise_map]
  apply (ownSuffixes_nodup _ _).imp_of_mem
  intro first second inFirst inSecond different same
  exact different (suffixes_suffixFree.append_inj (ownSuffixes_subset _ _ _ inFirst)
    (ownSuffixes_subset _ _ _ inSecond) same).2

/-- The grant of the manager group is among the records of every entity type. -/
theorem externalId_managerGrant_mem (entityType : EntityType) (group : RecordId) :
    entityType.underscored ++ "_company_manager_access" ∈
      (policy.desiredRecords entityType (some group)).map (·.externalId) := by
  rw [externalId_desiredRecords]
  apply List.mem_map_of_mem
  simp [ownSuffixes]

/-- The records of a catalog have different identifiers, with and without a manager group,
exactly if its entity types have different names with underscores for the dots. -/
theorem externalIds_nodup_iff (entityTypes : List EntityType) :
    (∀ group, ((entityTypes.flatMap (policy.desiredRecords · group)).map
      (·.externalId)).Nodup) ↔ (entityTypes.map (·.underscored)).Nodup := by
  have names : (entityTypes.map (·.underscored)).Nodup ↔
      entityTypes.Pairwise fun first second => first.underscored ≠ second.underscored :=
    List.pairwise_map
  rw [names]
  simp only [List.map_flatMap, List.Nodup, List.pairwise_flatMap]
  constructor
  · intro apart
    apply (apart (some 0)).2.imp
    intro first second different same
    have inFirst := policy.externalId_managerGrant_mem first 0
    have inSecond := policy.externalId_managerGrant_mem second 0
    rw [same] at inFirst
    exact different _ inFirst _ inSecond rfl
  · intro distinct group
    constructor
    · intro entityType _
      exact policy.externalIds_nodup entityType group
    · apply distinct.imp
      intro first second different identifier inFirst other inSecond same
      rw [← same] at inSecond
      exact policy.externalId_ne_of_underscored_ne different inFirst inSecond

end Policy

end TenantGuard
