import Mathlib.Data.List.Nodup
import TenantGuard.Engine.Step
import TenantGuard.Proofs.Catalog.Rules
import TenantGuard.Proofs.Record.Fields
import TenantGuard.Proofs.Record.Names

/-!
# Logical keys

A desired record is found again by its criteria, so its own values have to meet
them, and no record may meet those of two desired records.  Both hold of every
catalog that lists no entity type twice: within an entity type the names or the
groups tell its records apart, and between entity types the reference to the
entity type does, or the name.
-/

namespace TenantGuard

/-- The records that the store should hold for an entity type. -/
def Policy.desiredRecords (policy : Policy) (entityType : EntityType)
    (group : Option RecordId) : List DesiredRecord :=
  match Rule.compile entityType.name (policy.classifier.classify entityType.name)
      policy.config.tenancy with
  | .ok rules =>
      DesiredRecord.globalRules entityType rules ++ DesiredRecord.managerRecords entityType group
  | .error _ => DesiredRecord.managerRecords entityType group

namespace DesiredRecord

/-- Whether a record is an active one under the logical key. -/
def matched (desired : DesiredRecord) (values : Values) : Bool :=
  values.active && Criterion.allHold desired.criteria values

/-- No record is found by both keys. -/
def Apart (first second : DesiredRecord) : Prop :=
  first.kind = second.kind → ∀ values, ¬ (first.matched values ∧ second.matched values)

theorem Apart.symm {first second : DesiredRecord} (apart : first.Apart second) :
    second.Apart first := by
  intro sameKind values both
  exact apart sameKind.symm values both.symm

/-- No fields meet both keys, be they those of an active record or not. -/
def Exclusive (first second : DesiredRecord) : Prop :=
  first.kind = second.kind → ∀ values : Values,
    ¬ (Criterion.allHold first.criteria values ∧ Criterion.allHold second.criteria values)

theorem Exclusive.apart {first second : DesiredRecord} (exclusive : first.Exclusive second) :
    first.Apart second := by
  intro sameKind values both
  rw [matched, matched, Bool.and_eq_true, Bool.and_eq_true] at both
  exact exclusive sameKind values ⟨both.1.2, both.2.2⟩

/-- The values are written as they are stored, and a record with these values is
found by the key. -/
structure Coherent (desired : DesiredRecord) : Prop where
  normalized : ∀ (field : String) (value : FieldValue),
    desired.values[field]? = some value → value.normalized = value
  notNull : ∀ field : String, desired.values[field]? ≠ some .null
  keepsActive : desired.values[("active" : String)]? = none
  meetsKey : Criterion.allHold desired.criteria desired.values

/-- A record that is found by the key still is after some of its fields were
overwritten by the desired ones. -/
theorem Coherent.matched_overwrite {desired : DesiredRecord} (coherent : desired.Coherent)
    {values changes : Values} (found : desired.matched values)
    (taken : ∀ (field : String) (value : FieldValue),
      changes[field]? = some value → desired.values[field]? = some value) :
    desired.matched (values.overwrite changes) := by
  rw [matched, Bool.and_eq_true] at found ⊢
  constructor
  · rw [← found.1]
    apply Values.active_congr
    rw [Values.getElem?_overwrite]
    cases changed : changes[("active" : String)]? with
    | none => exact Option.none_or
    | some value =>
        have wanted := taken _ _ changed
        rw [coherent.keepsActive] at wanted
        cases wanted
  · exact Criterion.allHold_overwrite found.2 coherent.meetsKey taken

theorem Coherent.matched_values {desired : DesiredRecord} (coherent : desired.Coherent) :
    desired.matched desired.values := by
  rw [matched, Bool.and_eq_true]
  constructor
  · simp [Values.active, coherent.keepsActive]
  · exact coherent.meetsKey

theorem Coherent.normalized_values {desired : DesiredRecord} (coherent : desired.Coherent) :
    desired.values.normalized = desired.values := by
  apply Std.ExtTreeMap.ext_getElem?
  intro field
  rw [Values.getElem?_normalized]
  cases present : desired.values[field]? with
  | none => rfl
  | some value => exact congrArg some (coherent.normalized field value present)

/-- Values written down field by field are coherent if each of them is. -/
theorem coherent_of_fields {desired : DesiredRecord} {fields : List (String × FieldValue)}
    (written : desired.values = .ofList fields) (distinct : (fields.map (·.1)).Nodup)
    (stored : ∀ entry ∈ fields,
      entry.2.normalized = entry.2 ∧ entry.2 ≠ .null ∧ entry.1 ≠ "active")
    (meetsKey : ∀ criterion ∈ desired.criteria,
      ∃ value, (criterion.field, value) ∈ fields ∧ criterion.accepts value) :
    desired.Coherent where
  normalized := by
    intro field value present
    rw [written, Values.getElem?_ofList distinct] at present
    exact (stored _ present).1
  notNull := by
    intro field present
    rw [written, Values.getElem?_ofList distinct] at present
    exact (stored _ present).2.1 rfl
  keepsActive := by
    rw [← Option.not_isSome_iff_eq_none, Option.isSome_iff_exists]
    rintro ⟨value, present⟩
    rw [written, Values.getElem?_ofList distinct] at present
    exact (stored _ present).2.2 rfl
  meetsKey := by
    rw [Criterion.allHold, List.all_eq_true]
    intro criterion listed
    obtain ⟨value, membership, accepted⟩ := meetsKey criterion listed
    have present : desired.values[criterion.field]? = some value := by
      rw [written, Values.getElem?_ofList distinct]
      exact membership
    rw [Criterion.holds_eq_accepts, Values.read_of_getElem? _ _ present]
    exact accepted

theorem globalRule_coherent (entityType : EntityType) (rule : Rule) :
    (globalRule entityType rule).Coherent := by
  apply coherent_of_fields rfl
  · change ["name", "model_id", "domain_force", "groups", "perm_read", "perm_write",
      "perm_create", "perm_unlink"].Nodup
    decide
  · simp [permissionFields, FieldValue.normalized, FieldValue.relation]
  · simp [globalRule, Criterion.field, Criterion.accepts, FieldValue.relation,
      FieldValue.isEmptyRelation, ascending]

theorem managerGrant_coherent (entityType : EntityType) (group : RecordId) :
    (managerGrant entityType group).Coherent := by
  apply coherent_of_fields rfl
  · change ["name", "model_id", "group_id", "perm_read", "perm_write", "perm_create",
      "perm_unlink"].Nodup
    decide
  · simp [permissionFields, FieldValue.normalized]
  · simp [managerGrant, Criterion.field, Criterion.accepts]

theorem managerRule_coherent (entityType : EntityType) (group : RecordId) :
    (managerRule entityType group).Coherent := by
  apply coherent_of_fields rfl
  · change ["name", "model_id", "domain_force", "groups", "perm_read", "perm_write",
      "perm_create", "perm_unlink"].Nodup
    decide
  · simp [permissionFields, FieldValue.normalized, FieldValue.relation]
  · simp [managerRule, Criterion.field, Criterion.accepts, FieldValue.relation]

/-- A record under the key is accepted by each of its criteria. -/
theorem accepts_of_matched {desired : DesiredRecord} {values : Values}
    (found : desired.matched values) {criterion : Criterion}
    (listed : criterion ∈ desired.criteria) :
    criterion.accepts (values.read criterion.field) := by
  rw [matched, Bool.and_eq_true] at found
  exact Criterion.accepts_of_allHold found.2 listed

/-- Keys that ask for different values of one field exclude each other. -/
theorem exclusive_of_eq {first second : DesiredRecord} {field : String} {value other : FieldValue}
    (inFirst : .eq field value ∈ first.criteria) (inSecond : .eq field other ∈ second.criteria)
    (different : value ≠ other) : first.Exclusive second := by
  rintro _ values ⟨meetsFirst, meetsSecond⟩
  have isValue := Criterion.accepts_of_allHold meetsFirst inFirst
  have isOther := Criterion.accepts_of_allHold meetsSecond inSecond
  exact different ((of_decide_eq_true isValue).symm.trans (of_decide_eq_true isOther))

/-- A key that asks for no groups and one that asks for a group exclude each other. -/
theorem exclusive_of_isEmpty {first second : DesiredRecord} {field : String} {id : RecordId}
    (inFirst : .isEmpty field ∈ first.criteria)
    (inSecond : .contains field id ∈ second.criteria) : first.Exclusive second := by
  rintro _ values ⟨meetsFirst, meetsSecond⟩
  have isEmpty := Criterion.accepts_of_allHold meetsFirst inFirst
  have contains := Criterion.accepts_of_allHold meetsSecond inSecond
  simp only [Criterion.field] at isEmpty contains
  cases stored : values.read field with
  | refs ids =>
      simp only [stored, Criterion.accepts, FieldValue.isEmptyRelation, List.isEmpty_iff]
        at isEmpty contains
      simp [isEmpty] at contains
  | _ => simp [stored, Criterion.accepts] at contains

/-- The names of the rules of one class tell their modes apart. -/
theorem mode_eq_of_globalRuleName_eq {entity : String} {first second : Rule}
    (sameClass : first.securityClass = second.securityClass)
    (sameName : globalRuleName entity first = globalRuleName entity second) :
    first.mode = second.mode := by
  have sameLabel : first.mode.ruleLabel = second.mode.ruleLabel := by
    simpa [globalRuleName, sameClass, toString] using sameName
  revert sameLabel
  cases first.mode <;> cases second.mode <;> decide

/-- The global rules of one entity type exclude each other, since no class has two
templates of one mode. -/
theorem globalRules_exclusive (entityType : EntityType) {securityClass : SecurityClass}
    {settings : TenancySettings} {rules : List Rule}
    (compiled : Rule.compile entityType.name securityClass settings = .ok rules) :
    (globalRules entityType rules).Pairwise Exclusive := by
  have distinct : (rules.map (·.mode)).Nodup := by
    rw [Rule.modes_of_compile compiled]
    cases securityClass <;> decide
  rw [globalRules, List.pairwise_map]
  rw [List.Nodup, List.pairwise_map] at distinct
  apply distinct.imp_of_mem
  intro first second firstMember secondMember modesDifferent
  have named : ∀ rule, .eq "name" (.text (globalRuleName entityType.name rule)) ∈
      (globalRule entityType rule).criteria := by
    intro rule
    simp [globalRule]
  apply exclusive_of_eq (named first) (named second)
  · intro sameName
    injection sameName with sameName
    apply modesDifferent
    apply mode_eq_of_globalRuleName_eq _ sameName
    rw [Rule.securityClass_of_compile compiled first firstMember,
      Rule.securityClass_of_compile compiled second secondMember]

theorem managerRecords_exclusive (entityType : EntityType) (group : Option RecordId) :
    (managerRecords entityType group).Pairwise Exclusive := by
  cases group with
  | none => exact .nil
  | some group =>
      simp only [managerRecords, List.pairwise_pair]
      intro sameKind
      cases sameKind

theorem globalRule_exclusive_managerRecord (entityType : EntityType) (rule : Rule)
    {group : Option RecordId} {desired : DesiredRecord}
    (membership : desired ∈ managerRecords entityType group) :
    (globalRule entityType rule).Exclusive desired := by
  cases group with
  | none => cases membership
  | some group =>
      simp only [managerRecords, List.mem_cons, List.not_mem_nil, or_false] at membership
      rcases membership with rfl | rfl
      · intro sameKind
        cases sameKind
      · have ungrouped : .isEmpty "groups" ∈ (globalRule entityType rule).criteria := by
          simp [globalRule]
        have grouped : .contains "groups" group ∈ (managerRule entityType group).criteria := by
          simp [managerRule]
        exact exclusive_of_isEmpty ungrouped grouped

/-- A record that is built for an entity type is a global rule or one of the two of the manager
group. -/
theorem cases_of_mem_built {entityType : EntityType} {rules : List Rule}
    {group : Option RecordId} {desired : DesiredRecord}
    (built : desired ∈ globalRules entityType rules ++ managerRecords entityType group) :
    (∃ rule, desired = globalRule entityType rule) ∨
      ∃ manager, desired = managerGrant entityType manager ∨
        desired = managerRule entityType manager := by
  rcases List.mem_append.mp built with listed | listed
  · obtain ⟨rule, _, rfl⟩ := List.mem_map.mp listed
    exact .inl ⟨rule, rfl⟩
  · cases group with
    | none => cases listed
    | some manager => exact .inr ⟨manager, by simpa [managerRecords] using listed⟩

theorem coherent_of_mem_built {entityType : EntityType} {rules : List Rule}
    {group : Option RecordId} {desired : DesiredRecord}
    (built : desired ∈ globalRules entityType rules ++ managerRecords entityType group) :
    desired.Coherent := by
  rcases cases_of_mem_built built with ⟨rule, rfl⟩ | ⟨manager, rfl | rfl⟩
  · exact globalRule_coherent entityType rule
  · exact managerGrant_coherent entityType manager
  · exact managerRule_coherent entityType manager

end DesiredRecord

namespace Policy

open DesiredRecord

/-- The desired records are the global rules of the entity type's class, which always
compile, and those of the manager group. -/
theorem desiredRecords_of_compile {policy : Policy} {entityType : EntityType} {rules : List Rule}
    (compiled : Rule.compile entityType.name (policy.classifier.classify entityType.name)
      policy.config.tenancy = .ok rules) (group : Option RecordId) :
    policy.desiredRecords entityType group =
      globalRules entityType rules ++ managerRecords entityType group := by
  rw [desiredRecords, compiled]

theorem cases_of_mem_desiredRecords {policy : Policy} {entityType : EntityType}
    {group : Option RecordId} {desired : DesiredRecord}
    (membership : desired ∈ policy.desiredRecords entityType group) :
    (∃ rule, desired = globalRule entityType rule) ∨
      ∃ manager, desired = managerGrant entityType manager ∨
        desired = managerRule entityType manager := by
  rw [desiredRecords] at membership
  split at membership
  · exact cases_of_mem_built membership
  · exact @cases_of_mem_built entityType [] group desired membership

theorem coherent_of_mem_desiredRecords {policy : Policy} {entityType : EntityType}
    {group : Option RecordId} {desired : DesiredRecord}
    (membership : desired ∈ policy.desiredRecords entityType group) : desired.Coherent := by
  rw [desiredRecords] at membership
  split at membership
  · exact coherent_of_mem_built membership
  · exact @coherent_of_mem_built entityType [] group desired membership

/-- Every key asks for the entity type that the record is about. -/
theorem model_of_mem_desiredRecords {policy : Policy} {entityType : EntityType}
    {group : Option RecordId} {desired : DesiredRecord}
    (membership : desired ∈ policy.desiredRecords entityType group) :
    .eq "model_id" (.ref entityType.id) ∈ desired.criteria := by
  rcases cases_of_mem_desiredRecords membership with ⟨rule, rfl⟩ | ⟨manager, rfl | rfl⟩
  · simp [globalRule]
  · simp [managerGrant]
  · simp [managerRule]

/-- Every key asks for the name of its record, which begins with that of the entity type. -/
theorem name_of_mem_desiredRecords {policy : Policy} {entityType : EntityType}
    {group : Option RecordId} {desired : DesiredRecord}
    (membership : desired ∈ policy.desiredRecords entityType group) :
    ∃ suffix ∈ nameSuffixes,
      .eq "name" (.text (entityType.name ++ suffix)) ∈ desired.criteria := by
  rcases cases_of_mem_desiredRecords membership with ⟨rule, rfl⟩ | ⟨manager, rfl | rfl⟩
  · refine ⟨_, ruleSuffix_mem rule.securityClass rule.mode, ?_⟩
    simp [globalRule, globalRuleName_eq]
  · exact ⟨" - company manager", List.mem_cons_self, List.mem_cons_self⟩
  · exact ⟨" - company manager", List.mem_cons_self, List.mem_cons_self⟩

theorem desiredRecords_exclusive (policy : Policy) (entityType : EntityType)
    (group : Option RecordId) : (policy.desiredRecords entityType group).Pairwise Exclusive := by
  rw [desiredRecords]
  split
  next rules compiled =>
    rw [List.pairwise_append]
    refine ⟨globalRules_exclusive entityType compiled,
      managerRecords_exclusive entityType group, ?_⟩
    intro first firstListed second secondListed
    obtain ⟨rule, _, rfl⟩ := List.mem_map.mp firstListed
    exact globalRule_exclusive_managerRecord entityType rule secondListed
  next => exact managerRecords_exclusive entityType group

/-- Entity types with different ids have keys that ask for different references, and those with
different names have keys that ask for different names. -/
theorem exclusive_of_entityType_ne {policy : Policy} {entityType other : EntityType}
    {group : Option RecordId} (different : entityType ≠ other) {first second : DesiredRecord}
    (inFirst : first ∈ policy.desiredRecords entityType group)
    (inSecond : second ∈ policy.desiredRecords other group) : first.Exclusive second := by
  by_cases sameId : entityType.id = other.id
  · obtain ⟨suffix, known, named⟩ := name_of_mem_desiredRecords inFirst
    obtain ⟨otherSuffix, otherKnown, otherNamed⟩ := name_of_mem_desiredRecords inSecond
    apply exclusive_of_eq named otherNamed
    intro sameName
    injection sameName with sameName
    have sameName := (nameSuffixes_suffixFree.append_inj known otherKnown sameName).1
    cases entityType
    cases other
    exact different ((EntityType.mk.injEq ..).mpr ⟨sameId, sameName⟩)
  · apply exclusive_of_eq (model_of_mem_desiredRecords inFirst)
      (model_of_mem_desiredRecords inSecond)
    intro sameModel
    injection sameModel with sameModel
    exact sameId sameModel

/-- In a catalog that lists no entity type twice, no two keys are met by the same fields. -/
theorem flatMap_desiredRecords_exclusive (policy : Policy) {entityTypes : List EntityType}
    (group : Option RecordId) (distinct : entityTypes.Nodup) :
    (entityTypes.flatMap (policy.desiredRecords · group)).Pairwise Exclusive := by
  rw [List.pairwise_flatMap]
  refine ⟨fun entityType _ => policy.desiredRecords_exclusive entityType group, ?_⟩
  apply distinct.imp
  intro entityType other different first inFirst second inSecond
  exact exclusive_of_entityType_ne different inFirst inSecond

theorem desiredRecords_apart (policy : Policy) (entityType : EntityType)
    (group : Option RecordId) : (policy.desiredRecords entityType group).Pairwise Apart :=
  (policy.desiredRecords_exclusive entityType group).imp Exclusive.apart

/-- In a catalog whose entity types have different ids, no record is found by two
keys. -/
theorem flatMap_desiredRecords_apart (policy : Policy) {entityTypes : List EntityType}
    (group : Option RecordId) (distinct : (entityTypes.map (·.id)).Nodup) :
    (entityTypes.flatMap (policy.desiredRecords · group)).Pairwise Apart := by
  have listedOnce : entityTypes.Nodup := distinct.of_map _
  exact (policy.flatMap_desiredRecords_exclusive group listedOnce).imp Exclusive.apart

end Policy

end TenantGuard
