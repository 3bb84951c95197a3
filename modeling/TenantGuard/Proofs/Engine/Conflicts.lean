import TenantGuard.Proofs.Engine.Settling

/-!
# When records conflict

Several records under one key are a conflict exactly if two of them differ in a desired field.
Relations are compared as sets.  To the criteria of a key, and where the fields to be written are
determined, a field that a record does not have is null; here a record without the field and one
in which null is written differ as well.
-/

namespace TenantGuard

namespace RecordTable

/-- Two records differ in what is read of the field: relations are sets, and a field that a
record does not have is null. -/
def Differs (found : RecordTable) (field : String) : Prop :=
  ∃ first ∈ found.toList, ∃ second ∈ found.toList,
    (first.2.read field).normalized ≠ (second.2.read field).normalized

/-- Null is written in the field of a record, and another record does not have the field. -/
def HalfNull (found : RecordTable) (field : String) : Prop :=
  ∃ first ∈ found.toList, ∃ second ∈ found.toList,
    first.2[field]? = some .null ∧ second.2[field]? = none

instance (found : RecordTable) (field : String) : Decidable (found.Differs field) :=
  inferInstanceAs (Decidable (∃ first ∈ found.toList, ∃ second ∈ found.toList,
    (first.2.read field).normalized ≠ (second.2.read field).normalized))

instance (found : RecordTable) (field : String) : Decidable (found.HalfNull field) :=
  inferInstanceAs (Decidable (∃ first ∈ found.toList, ∃ second ∈ found.toList,
    first.2[field]? = some .null ∧ second.2[field]? = none))

end RecordTable

/-- Only null is stored as null. -/
theorem FieldValue.normalized_eq_null {value : FieldValue} :
    value.normalized = .null ↔ value = .null := by
  cases value <;> simp [normalized, relation]

/-- Two records are not alike in a field if they read differently, or if null is written in one
of them and the other does not have the field. -/
theorem Values.normalized_ne_iff (first second : Values) (field : String) :
    first[field]?.map FieldValue.normalized ≠ second[field]?.map FieldValue.normalized ↔
      (first.read field).normalized ≠ (second.read field).normalized ∨
        (first[field]? = some .null ∧ second[field]? = none) ∨
        (second[field]? = some .null ∧ first[field]? = none) := by
  rw [read, read]
  cases inFirst : first[field]? with
  | none =>
      cases inSecond : second[field]? with
      | none => simp
      | some value =>
          refine iff_of_true (by simp) ?_
          by_cases null : value = .null
          · exact .inr (.inr ⟨congrArg some null, rfl⟩)
          · exact .inl fun same => null (FieldValue.normalized_eq_null.mp same.symm)
  | some value =>
      cases inSecond : second[field]? with
      | none =>
          refine iff_of_true (by simp) ?_
          by_cases null : value = .null
          · exact .inr (.inl ⟨congrArg some null, rfl⟩)
          · exact .inl fun same => null (FieldValue.normalized_eq_null.mp same)
      | some other => simp

namespace DesiredRecord

variable {desired : DesiredRecord} {found : RecordTable} {field : String}
  {before after : Store} {outcome : RecordOutcome} {conflict : Conflict}

/-- The records under a key disagree in the desired fields that two of them read differently,
and in those that are null in one of them and missing in another. -/
theorem mem_disagreements :
    field ∈ desired.disagreements found ↔
      field ∈ desired.fields ∧ (found.Differs field ∨ found.HalfNull field) := by
  rw [disagreements, Reconcile.mem_differingFields]
  apply and_congr_right
  intro listed
  constructor
  · rintro ⟨row, inRows, other, inRowsToo, unlike⟩
    obtain ⟨first, isFound, rfl⟩ := List.mem_map.mp inRows
    obtain ⟨second, isFoundToo, rfl⟩ := List.mem_map.mp inRowsToo
    rw [getElem?_row listed, getElem?_row listed, Values.normalized_ne_iff] at unlike
    rcases unlike with differ | half | half
    · exact .inl ⟨first, isFound, second, isFoundToo, differ⟩
    · exact .inr ⟨first, isFound, second, isFoundToo, half⟩
    · exact .inr ⟨second, isFoundToo, first, isFound, half⟩
  · rintro (⟨first, isFound, second, isFoundToo, differ⟩ |
      ⟨first, isFound, second, isFoundToo, half⟩)
    · refine ⟨_, List.mem_map_of_mem isFound, _, List.mem_map_of_mem isFoundToo, ?_⟩
      rw [getElem?_row listed, getElem?_row listed, Values.normalized_ne_iff]
      exact .inl differ
    · refine ⟨_, List.mem_map_of_mem isFound, _, List.mem_map_of_mem isFoundToo, ?_⟩
      rw [getElem?_row listed, getElem?_row listed, Values.normalized_ne_iff]
      exact .inr (.inl half)

/-- The fields of a conflict are in ascending order, each once. -/
theorem disagreements_ascending (desired : DesiredRecord) (found : RecordTable) :
    (desired.disagreements found).Pairwise (· < ·) := by
  have ordered : desired.fields.Pairwise fun first second => compare first second = .lt :=
    Std.ExtTreeMap.ordered_keys
  exact (ordered.imp compareOfLessAndEq_eq_lt.mp).sublist Reconcile.differingFields_sublist

theorem disagreements_empty (desired : DesiredRecord) : desired.disagreements ∅ = [] := by
  rw [disagreements, rows, Std.ExtTreeMap.toList_eq_nil_iff.mpr rfl]
  rfl

/-- Records that can be brought together in the first of them do not disagree. -/
theorem disagreements_eq_nil_of_agree {kept : RecordId} {copies : List RecordId}
    (listed : found.keys = kept :: copies)
    (agree : copies ≠ [] → desired.disagreements found = []) :
    desired.disagreements found = [] := by
  by_cases alone : copies = []
  · rw [alone] at listed
    obtain ⟨values, rfl⟩ := RecordTable.eq_single_of_keys listed
    exact desired.disagreements_single kept values
  · exact agree alone

/-- What the store refuses to write is written for records that do not disagree. -/
theorem Refused.disagreements_eq_nil {cause : StoreError}
    (refused : desired.Refused before cause) :
    desired.disagreements (before.matching desired) = [] := by
  cases refused with
  | create missing =>
      rw [missing]
      exact desired.disagreements_empty
  | write listed stored agree => exact disagreements_eq_nil_of_agree listed agree

/-- Settling finds a conflict exactly where records disagree. -/
theorem Settles.conflict_iff (settles : desired.Settles before outcome after) :
    outcome = .conflict conflict ↔
      conflict = desired.conflictOf (before.matching desired) ∧
        desired.disagreements (before.matching desired) ≠ [] := by
  cases settles with
  | created missing =>
      rw [missing, disagreements_empty]
      simp
  | conflicting found several differ =>
      rw [RecordOutcome.conflict.injEq, eq_comm]
      exact (and_iff_left differ).symm
  | unchanged merges | updated merges =>
      rw [disagreements_eq_nil_of_agree merges.found merges.agree]
      simp

end DesiredRecord

namespace Reconcile

/-- Unless a call is lost, bringing in a desired record ends in a conflict exactly where records
disagree. -/
theorem record_eq_conflict_iff {session : Session}
    (reliable : ∀ method, ¬ session.host.Loses method) (orderly : session.host.Orderly)
    (entity : String) (desired : DesiredRecord) {conflict : Conflict} :
    (session.run (record entity desired)).1 = .ok (.conflict conflict) ↔
      conflict = desired.conflictOf (session.host.store.matching desired) ∧
        desired.disagreements (session.host.store.matching desired) ≠ [] := by
  have ensures := record_ensures orderly entity desired
  obtain ⟨outcome, after, ran⟩ | ⟨error, after, ran⟩ :=
    session.returns_or_stops (record entity desired)
  · rw [Session.ensures_of_returned ran] at ensures
    rw [ran, Except.ok.injEq]
    exact ensures.conflict_iff
  · rw [Session.ensures_of_stopped ran] at ensures
    have agree : desired.disagreements (session.host.store.matching desired) = [] := by
      rcases ensures.2 with ⟨method, lost⟩ | ⟨cause, _, refused⟩
      · exact absurd lost (reliable method)
      · exact refused.disagreements_eq_nil
    rw [ran, agree]
    simp

/-- In a store that gets every call, in whichever order a search lists its ids, bringing in a
desired record ends in a conflict exactly if two of the active records under its key differ in a
desired field: they read differently, or null is written in one and the other does not have the
field.  The conflict lists exactly these fields, in ascending order and each once. -/
theorem record_conflicts {session : Session} (reliable : ∀ method, ¬ session.host.Loses method)
    (orderly : session.host.Orderly) (entity : String) (desired : DesiredRecord) :
    let found := session.host.store.matching desired
    let result := (session.run (record entity desired)).1
    ((∃ conflict, result = .ok (.conflict conflict)) ↔
      ∃ field ∈ desired.fields, found.Differs field ∨ found.HalfNull field) ∧
    ∀ conflict, result = .ok (.conflict conflict) →
      conflict.fields.Pairwise (· < ·) ∧
      ∀ field, field ∈ conflict.fields ↔
        field ∈ desired.fields ∧ (found.Differs field ∨ found.HalfNull field) := by
  intro found result
  have conflict_iff := @record_eq_conflict_iff session reliable orderly entity desired
  constructor
  · constructor
    · rintro ⟨conflict, conflicting⟩
      obtain ⟨field, listed⟩ := List.exists_mem_of_ne_nil _ (conflict_iff.mp conflicting).2
      exact ⟨field, DesiredRecord.mem_disagreements.mp listed⟩
    · rintro ⟨field, listed, differ⟩
      have disagrees := DesiredRecord.mem_disagreements.mpr ⟨listed, differ⟩
      exact ⟨_, conflict_iff.mpr ⟨rfl, List.ne_nil_of_mem disagrees⟩⟩
  · intro conflict conflicting
    rw [(conflict_iff.mp conflicting).1]
    exact ⟨desired.disagreements_ascending found, fun _ => DesiredRecord.mem_disagreements⟩

/-- A store with grants for a manager group, each with some fields besides those of the key. -/
def granted (grants : List (List (String × FieldValue))) : Store :=
  let key : List (String × FieldValue) :=
    [("name", .text "res.partner - company manager"), ("model_id", .ref 1), ("group_id", .ref 2)]
  let operations : List Store.Operation :=
    .addEntityType "res.partner" ::
      .addGroup ⟨"multicompany_instead_of_multidatabase", "group_company_manager"⟩ ::
      grants.map fun fields => .insertRecord .accessGrant (.ofList (key ++ fields))
  operations.foldl Store.Operation.apply {}

theorem granted_reachable (grants : List (List (String × FieldValue))) :
    (granted grants).Reachable :=
  Store.Reachable.empty.foldl _

/-- One of three grants may not write, and in one of them null is written for reading. -/
theorem record_conflicts_granted :
    let store := granted
      [[("perm_write", .bool true)], [("perm_read", .null), ("perm_write", .bool true)],
        [("perm_write", .bool false)]]
    let session : Session := { host := { store } }
    let desired := DesiredRecord.managerGrant ⟨1, "res.partner"⟩ 2
    let found := store.matching desired
    found.keys = [3, 4, 5] ∧ found.Differs "perm_write" ∧ found.HalfNull "perm_read" ∧
      ∃ conflict, (session.run (record "res.partner" desired)).1 = .ok (.conflict conflict) ∧
        conflict.fields.Pairwise (· < ·) ∧
        ∀ field, field ∈ conflict.fields ↔
          field ∈ desired.fields ∧ (found.Differs field ∨ found.HalfNull field) := by
  intro store session desired found
  obtain ⟨conflicts_iff, fields⟩ := @record_conflicts session (Host.reliable_of_default store)
    (Host.orderly_of_default store) "res.partner" desired
  have differ : found.Differs "perm_write" := by decide +kernel
  obtain ⟨conflict, conflicting⟩ :=
    conflicts_iff.mpr ⟨"perm_write", by decide +kernel, .inl differ⟩
  exact ⟨by decide +kernel, differ, by decide +kernel, conflict, conflicting,
    fields conflict conflicting⟩

/-- Of two grants that read the same in every desired field, null is written for reading in one
and the field is missing in the other: they are reported as a conflict. -/
theorem record_conflicts_half_null :
    let store := granted [[], [("perm_read", .null)]]
    let session : Session := { host := { store } }
    let desired := DesiredRecord.managerGrant ⟨1, "res.partner"⟩ 2
    let found := store.matching desired
    let result := (session.run (record "res.partner" desired)).1
    store.Reachable ∧ found.keys = [3, 4] ∧
      (∃ conflict, result = .ok (.conflict conflict) ∧ conflict.fields = ["perm_read"]) ∧
      ¬ ((∃ conflict, result = .ok (.conflict conflict)) ↔
        ∃ field ∈ desired.fields, found.Differs field) := by
  intro store session desired found result
  have disagreements : desired.disagreements found = ["perm_read"] := by decide +kernel
  have conflicting : result = .ok (.conflict (desired.conflictOf found)) := by
    refine (record_eq_conflict_iff (Host.reliable_of_default store)
      (Host.orderly_of_default store) _ _).mpr ⟨rfl, ?_⟩
    rw [disagreements]
    exact List.cons_ne_nil _ _
  have alike : ¬ ∃ field ∈ desired.fields, found.Differs field := by decide +kernel
  exact ⟨granted_reachable _, by decide +kernel, ⟨_, conflicting, disagreements⟩,
    fun same => alike (same.mp ⟨_, conflicting⟩)⟩

end Reconcile

end TenantGuard
