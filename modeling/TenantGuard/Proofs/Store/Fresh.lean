import Mathlib.Data.List.Pairwise
import TenantGuard.Proofs.Store.Reachable

/-!
# Ids are handed out once

Entity types, groups and records get their ids from one counter, which a rollback does not set
back.  Every operation hands out the next id or none, so the ids of a run ascend and none comes
twice.  The records, also those that savepoints remember, have ids that were handed out, and so
a new record never takes the place of another one.
-/

namespace TenantGuard.Store

/-- The id that an operation hands out, if it does. -/
def Operation.handsOut? (store : Store) : Operation → Option RecordId
  | .addEntityType name => some (store.addEntityType name).1.id
  | .addGroup reference => some (store.addGroup reference).1
  | .insertRecord kind values => some (store.insertRecord kind values).1
  | .call request => request.handsOut? store
  | _ => none

/-- The ids that a run of operations hands out, in order. -/
def handedOut (store : Store) : List Operation → List RecordId
  | [] => []
  | operation :: operations =>
      (operation.handsOut? store).toList ++ handedOut (operation.apply store) operations

namespace Operation

variable {store : Store} {operation : Operation} {kind : RecordKind} {id : RecordId}

theorem eq_of_handsOut? (handsOut : operation.handsOut? store = some id) :
    id = store.lastId + 1 := by
  cases operation with
  | call request => exact Call.eq_of_handsOut? handsOut
  | addEntityType | addGroup | insertRecord =>
      cases handsOut
      rfl
  | addTable | insertExternalId | rejectWrites | rejectTable | resetCounts => cases handsOut

theorem lastId_apply (store : Store) (operation : Operation) :
    (operation.apply store).lastId = (operation.handsOut? store).getD store.lastId := by
  cases operation with
  | call request => exact request.lastId_run store
  | addEntityType | addGroup | insertRecord | addTable | insertExternalId | rejectWrites
  | rejectTable | resetCounts => rfl

/-- A record has the id of one that was there or remembered before the operation, or the one
that the operation handed out. -/
theorem origin (operation : Operation) {data : StoreData}
    (version : data ∈ (operation.apply store).versions) (present : id ∈ data.records kind) :
    (∃ earlier ∈ store.versions, id ∈ earlier.records kind) ∨
      operation.handsOut? store = some id := by
  cases operation with
  | call request =>
      rcases mem_versions.mp version with rfl | ⟨savepoint, opened, rfl⟩
      · exact request.origin present
      · exact .inl ⟨savepoint.data, request.versions_of_savepoint opened, present⟩
  | insertRecord other values =>
      rcases mem_versions.mp version with rfl | ⟨savepoint, opened, rfl⟩
      · change id ∈ (store.allocate.2.putRecord other _ values).data.records kind at present
        rw [RecordTable.mem_iff_stored, getElem?_putRecord] at present
        split at present
        next here => exact .inr (congrArg some here.2)
        next =>
          exact .inl ⟨store.data, List.mem_cons_self, RecordTable.mem_iff_stored.mpr present⟩
      · exact .inl ⟨savepoint.data, mem_versions.mpr (.inr ⟨savepoint, opened, rfl⟩), present⟩
  | addTable | insertExternalId =>
      rcases mem_versions.mp version with rfl | ⟨savepoint, opened, rfl⟩
      · refine .inl ⟨store.data, List.mem_cons_self, ?_⟩
        cases kind <;> exact present
      · exact .inl ⟨savepoint.data, mem_versions.mpr (.inr ⟨savepoint, opened, rfl⟩), present⟩
  | addEntityType | addGroup | rejectWrites | rejectTable | resetCounts =>
      exact .inl ⟨data, version, present⟩

/-- Where an id is handed out, the records under other ids stay as they are. -/
theorem getElem?_of_handsOut? (handsOut : operation.handsOut? store = some id)
    {other : RecordId} {values : Values} (different : id ≠ other)
    (stored : (store.data.records kind)[other]? = some values) :
    ((operation.apply store).data.records kind)[other]? = some values := by
  cases operation with
  | insertRecord written others =>
      cases handsOut
      change ((store.allocate.2.putRecord written _ others).data.records kind)[other]? = _
      rw [getElem?_putRecord, if_neg fun here => different here.2]
      exact stored
  | call request =>
      cases request with
      | create written others =>
          cases created : store.create written others with
          | mk answer after =>
              rw [handsOut?, Call.handsOut?, created] at handsOut
              cases answer with
              | error cause => cases handsOut
              | ok new =>
                  cases handsOut
                  change (((store.create written others).2.data.records kind)[other]?) = _
                  rw [created, getElem?_of_create created, if_neg fun here => different here.2]
                  exact stored
      | entityTypes | resolveGroup | search | read | write | unlink | findExternalId
      | createExternalId | savepoint | releaseSavepoint | rollbackToSavepoint
      | tablesWithColumn | fillNullColumn => cases handsOut
  | addEntityType | addGroup => exact stored
  | addTable | insertExternalId | rejectWrites | rejectTable | resetCounts => cases handsOut

theorem lastId_le_apply (store : Store) (operation : Operation) :
    store.lastId ≤ (operation.apply store).lastId := by
  rw [lastId_apply]
  cases handsOut : operation.handsOut? store with
  | none => exact Int.le_refl _
  | some id =>
      rw [eq_of_handsOut? handsOut]
      exact Int.le_add_one (Int.le_refl _)

end Operation

section Runs

variable {store : Store} {operations : List Operation} {id : RecordId}

theorem mem_handedOut_cons {operation : Operation} :
    id ∈ handedOut store (operation :: operations) ↔
      operation.handsOut? store = some id ∨ id ∈ handedOut (operation.apply store) operations := by
  rw [handedOut, List.mem_append, Option.mem_toList]

/-- The last id after a run is the last one that it handed out. -/
theorem lastId_foldl (store : Store) (operations : List Operation) :
    (operations.foldl Operation.apply store).lastId =
      (handedOut store operations).getLast?.getD store.lastId := by
  induction operations generalizing store with
  | nil => rfl
  | cons operation operations ih =>
      rw [List.foldl_cons, ih, operation.lastId_apply, handedOut, List.getLast?_append]
      cases (handedOut (operation.apply store) operations).getLast? with
      | some last => rfl
      | none =>
          cases operation.handsOut? store with
          | none => rfl
          | some id => rfl

theorem lt_of_mem_handedOut (listed : id ∈ handedOut store operations) : store.lastId < id := by
  induction operations generalizing store with
  | nil => cases listed
  | cons operation operations ih =>
      rcases mem_handedOut_cons.mp listed with handsOut | listed
      · rw [Operation.eq_of_handsOut? handsOut]
        exact Int.lt_succ _
      · exact Int.lt_of_le_of_lt (operation.lastId_le_apply store) (ih listed)

theorem handedOut_ascending (store : Store) (operations : List Operation) :
    (handedOut store operations).Pairwise (· < ·) := by
  induction operations generalizing store with
  | nil => exact .nil
  | cons operation operations ih =>
      rw [handedOut, List.pairwise_append]
      refine ⟨?_, ih _, ?_⟩
      · cases operation.handsOut? store with
        | none => exact .nil
        | some id => exact List.pairwise_singleton _ id
      · intro id now later listed
        rw [Option.mem_toList] at now
        have isLast : (operation.apply store).lastId = id := by
          rw [operation.lastId_apply, now]
          rfl
        rw [← isLast]
        exact lt_of_mem_handedOut listed

/-- No id of a run is above the last one that it handed out. -/
theorem le_last_of_mem_handedOut (listed : id ∈ handedOut store operations) :
    ∃ last, (handedOut store operations).getLast? = some last ∧ id ≤ last := by
  have nondescending := (handedOut_ascending store operations).imp Int.le_of_lt
  exact ⟨_, List.getLast?_eq_some_getLast (List.ne_nil_of_mem listed),
    nondescending.rel_getLast listed⟩

theorem le_lastId_of_mem_handedOut (listed : id ∈ handedOut store operations) :
    id ≤ (operations.foldl Operation.apply store).lastId := by
  obtain ⟨last, isLast, le⟩ := le_last_of_mem_handedOut listed
  rw [lastId_foldl, isLast]
  exact le

/-- The records after a run, also those that are remembered, have ids that were there before
or that the run handed out. -/
theorem origin_of_foldl {data : StoreData} {kind : RecordKind}
    (version : data ∈ (operations.foldl Operation.apply store).versions)
    (present : id ∈ data.records kind) :
    (∃ earlier ∈ store.versions, id ∈ earlier.records kind) ∨ id ∈ handedOut store operations := by
  induction operations generalizing store with
  | nil => exact .inl ⟨data, version, present⟩
  | cons operation operations ih =>
      rw [mem_handedOut_cons]
      rcases ih version with ⟨between, version, present⟩ | listed
      · exact (operation.origin version present).imp_right .inl
      · exact .inr (.inr listed)

/-- What a run from the empty store leaves and remembers has ids that the run handed out. -/
theorem mem_handedOut_of_version {data : StoreData} {kind : RecordKind}
    (version : data ∈ (operations.foldl Operation.apply {}).versions)
    (present : id ∈ data.records kind) : id ∈ handedOut {} operations := by
  rcases origin_of_foldl version present with ⟨earlier, initial, inEmpty⟩ | listed
  · rw [versions, List.map_nil, List.mem_singleton] at initial
    rw [initial] at inEmpty
    cases kind <;> exact absurd inEmpty Std.ExtTreeMap.not_mem_empty
  · exact listed

end Runs

/-- Whichever operations are carried out from the empty store, no id is handed out twice, and
every record, in the data and in each open savepoint, has an id up to the last one handed out.
The next id that is handed out is therefore a new one, under which there is no record, and the
records that are there stay when a record is put under it. -/
theorem ids_handed_out_once (operations : List Operation) :
    let reached := operations.foldl Operation.apply {}
    (handedOut {} operations).Nodup ∧
    (∀ data ∈ reached.versions, ∀ kind, ∀ id ∈ data.records kind,
      ∃ last, (handedOut {} operations).getLast? = some last ∧ id ≤ last) ∧
    ∀ (operation : Operation) (id : RecordId), operation.handsOut? reached = some id →
      id ∉ handedOut {} operations ∧
      (∀ data ∈ reached.versions, ∀ kind, id ∉ data.records kind) ∧
      ∀ (kind : RecordKind) (other : RecordId) (values : Values),
        (reached.data.records kind)[other]? = some values →
          ((operation.apply reached).data.records kind)[other]? = some values := by
  intro reached
  refine ⟨(handedOut_ascending {} operations).imp Int.ne_of_lt, ?_, ?_⟩
  · intro data version kind id present
    exact le_last_of_mem_handedOut (mem_handedOut_of_version version present)
  · intro operation id handsOut
    have new : id ∉ handedOut {} operations := by
      intro listed
      have le := le_lastId_of_mem_handedOut listed
      rw [Operation.eq_of_handsOut? handsOut] at le
      exact absurd le (Int.not_le.mpr (Int.lt_succ _))
    have unused : ∀ data ∈ reached.versions, ∀ kind, id ∉ data.records kind :=
      fun data version kind present => new (mem_handedOut_of_version version present)
    refine ⟨new, unused, ?_⟩
    intro kind other values stored
    apply Operation.getElem?_of_handsOut? handsOut _ stored
    rintro rfl
    exact unused reached.data List.mem_cons_self kind (RecordTable.mem_of_stored stored)

/-- A record that was created under a savepoint is taken back, and another one that was removed
since is still remembered; neither of their ids is handed out again. -/
theorem ids_handed_out_once_rolled_back :
    let operations : List Operation :=
      [.addEntityType "sale.order", .insertRecord .rule ∅, .insertRecord .rule ∅,
        .call (.savepoint "pass"), .call (.create .rule ∅), .call (.rollbackToSavepoint "pass"),
        .call (.savepoint "entity"), .call (.unlink .rule [2])]
    let reached := operations.foldl Operation.apply {}
    let operation : Operation := .call (.create .rule ∅)
    handedOut {} operations = [1, 2, 3, 4] ∧ (handedOut {} operations).Nodup ∧
      reached.versions.map (fun data => (data.records .rule).keys) = [[3], [2, 3]] ∧
      operation.handsOut? reached = some 5 ∧ 5 ∉ handedOut {} operations ∧
      (∀ data ∈ reached.versions, ∀ kind, 5 ∉ data.records kind) ∧
      ((operation.apply reached).data.records .rule)[(3 : RecordId)]? = some ∅ := by
  intro operations reached operation
  obtain ⟨distinct, _, new⟩ := ids_handed_out_once operations
  have handsOut : operation.handsOut? reached = some 5 := by decide +kernel
  obtain ⟨notListed, unused, stays⟩ := new operation 5 handsOut
  exact ⟨by decide +kernel, distinct, by decide +kernel, handsOut, notListed, unused,
    stays .rule 3 ∅ (by decide +kernel)⟩

end TenantGuard.Store
