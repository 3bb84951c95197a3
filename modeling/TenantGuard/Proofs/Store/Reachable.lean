import TenantGuard.Proofs.Store.Calls
import TenantGuard.Proofs.Store.Matching

/-!
# Reachable stores

A store is reachable if a sequence of its public operations builds it from the
empty one.  Ids are handed out in ascending order and never again, so in a
reachable store no record, in the data or in a savepoint, lies above the last id,
and the entity types of the catalog have different ids.
-/

namespace TenantGuard

/-- The public operations of a store that can change it. -/
inductive Store.Operation : Type 1 where
  | addEntityType (name : String)
  | addGroup (reference : Reference)
  | insertRecord (kind : RecordKind) (values : Values)
  | addTable (table column : String) (rows : Column)
  | insertExternalId (reference : Reference) (target : Target)
  | rejectWrites (kind : RecordKind) (model : RecordId)
  | rejectTable (table : String)
  | resetCounts
  | call {α : Type} (request : Call α)

namespace Store

/-- The store that an operation leaves. -/
def Operation.apply (store : Store) : Operation → Store
  | .addEntityType name => (store.addEntityType name).2
  | .addGroup reference => (store.addGroup reference).2
  | .insertRecord kind values => (store.insertRecord kind values).2
  | .addTable table column rows => store.addTable table column rows
  | .insertExternalId reference target => store.insertExternalId reference target
  | .rejectWrites kind model => store.rejectWrites kind model
  | .rejectTable table => store.rejectTable table
  | .resetCounts => store.resetCounts
  | .call request => (request.run store).2

/-- What the public operations can build from the empty store. -/
inductive Reachable : Store → Prop where
  | empty : Reachable {}
  | step {store : Store} (reached : Reachable store) (operation : Operation) :
      Reachable (operation.apply store)

end Store

/-- The id that a call hands out, if it does. -/
def Call.handsOut? {α : Type} (store : Store) : Call α → Option RecordId
  | .create kind values => (store.create kind values).1.toOption
  | _ => none

/-- The data of a store, as they are and as each open savepoint remembers them. -/
def Store.versions (store : Store) : List StoreData :=
  store.data :: store.savepoints.map (·.data)

theorem Store.mem_versions {store : Store} {data : StoreData} :
    data ∈ store.versions ↔
      data = store.data ∨ ∃ savepoint ∈ store.savepoints, savepoint.data = data := by
  rw [versions, List.mem_cons, List.mem_map]

namespace Call

variable {α : Type} {store : Store} {kind : RecordKind} {id : RecordId}

/-- Only the next id is handed out. -/
theorem eq_of_handsOut? {request : Call α} (handsOut : request.handsOut? store = some id) :
    id = store.lastId + 1 := by
  cases request with
  | create kind values =>
      rw [handsOut?, Store.create] at handsOut
      split at handsOut
      · cases handsOut
      · cases handsOut
        rfl
  | entityTypes | resolveGroup | search | read | write | unlink | findExternalId
  | createExternalId | savepoint | releaseSavepoint | rollbackToSavepoint | tablesWithColumn
  | fillNullColumn => cases handsOut

/-- The last id is the one that was handed out now, or the one before. -/
theorem lastId_run (store : Store) (request : Call α) :
    (request.run store).2.lastId = (request.handsOut? store).getD store.lastId := by
  cases request with
  | create kind values =>
      rw [run, handsOut?, Store.create]
      split
      · rfl
      · rfl
  | write kind id values =>
      rw [run, Store.write]
      split
      · rfl
      · split
        · rfl
        · rfl
  | createExternalId reference target =>
      rw [run, Store.createExternalId]
      split
      · rfl
      · rfl
  | releaseSavepoint name =>
      rw [run, Store.releaseSavepoint]
      split
      · rfl
      · rfl
  | rollbackToSavepoint name =>
      rw [run, Store.rollbackToSavepoint]
      split
      · rfl
      · rfl
  | fillNullColumn table column value =>
      rw [run, Store.fillNullColumn]
      split
      · rfl
      · split
        · rfl
        · rfl
  | entityTypes | resolveGroup | search | read | unlink | findExternalId | savepoint
  | tablesWithColumn => rfl

/-- What a savepoint remembers after a call was there before it. -/
theorem versions_of_savepoint (request : Call α) {savepoint : Savepoint}
    (opened : savepoint ∈ (request.run store).2.savepoints) :
    savepoint.data ∈ store.versions := by
  have remembered : ∀ savepoint ∈ store.savepoints, savepoint.data ∈ store.versions :=
    fun savepoint listed => Store.mem_versions.mpr (.inr ⟨savepoint, listed, rfl⟩)
  have earlier : ∀ {name data left}, Store.popTo? name store.savepoints = some (data, left) →
      savepoint ∈ left → savepoint.data ∈ store.versions := by
    intro name data left found listed
    obtain ⟨newer, split, _⟩ := Store.popTo?_eq_some_iff.mp found
    apply remembered
    rw [split]
    exact List.mem_append_right _ (List.mem_cons_of_mem _ listed)
  cases request with
  | savepoint name =>
      rcases List.mem_cons.mp opened with rfl | opened
      · exact List.mem_cons_self
      · exact remembered _ opened
  | releaseSavepoint name =>
      rw [run, Store.releaseSavepoint] at opened
      split at opened
      · exact remembered _ opened
      next found => exact earlier found opened
  | rollbackToSavepoint name =>
      rw [run, Store.rollbackToSavepoint] at opened
      split at opened
      · exact remembered _ opened
      next found => exact earlier found opened
  | entityTypes | resolveGroup | search | read | create | write | unlink | findExternalId
  | createExternalId | tablesWithColumn | fillNullColumn =>
      rw [savepoints_run] at opened
      · exact remembered _ opened
      · exact Bool.false_ne_true

/-- A record has the id of one that was there or remembered before the call, or the one that
the call handed out. -/
theorem origin (request : Call α) (present : id ∈ (request.run store).2.data.records kind) :
    (∃ data ∈ store.versions, id ∈ data.records kind) ∨ request.handsOut? store = some id := by
  have stays : id ∈ store.data.records kind →
      (∃ data ∈ store.versions, id ∈ data.records kind) ∨ request.handsOut? store = some id :=
    fun present => .inl ⟨store.data, List.mem_cons_self, present⟩
  cases answer : (request.run store).1 with
  | error cause =>
      rw [request.run_eq_of_error store answer] at present
      exact stays present
  | ok value =>
      have ran : request.run store = (.ok value, (request.run store).2) := by rw [← answer]
      generalize (request.run store).2 = after at present ran
      rw [RecordTable.mem_iff_stored] at present stays
      cases request with
      | create other values =>
          change store.create other values = (.ok value, after) at ran
          rw [Store.getElem?_of_create ran] at present
          split at present
          next here =>
            right
            rw [handsOut?, ran, here.2]
            rfl
          next => exact stays present
      | write other written values =>
          obtain ⟨current, stored, _⟩ := Store.write_eq_ok ran
          rw [Store.getElem?_of_write ran stored] at present
          split at present
          next here =>
            rw [here.1, here.2] at stored
            exact stays ⟨current, stored⟩
          next => exact stays present
      | unlink other ids =>
          cases ran
          rw [Store.getElem?_unlink] at present
          split at present
          · obtain ⟨_, ⟨⟩⟩ := present
          · exact stays present
      | rollbackToSavepoint name =>
          rw [run, Store.rollbackToSavepoint] at ran
          split at ran
          · cases ran
          next data earlier found =>
            cases ran
            obtain ⟨newer, split, _⟩ := Store.popTo?_eq_some_iff.mp found
            refine .inl ⟨data, Store.mem_versions.mpr (.inr ⟨⟨name, data⟩, ?_, rfl⟩),
              RecordTable.mem_iff_stored.mpr present⟩
            rw [split]
            exact List.mem_append_right _ List.mem_cons_self
      | createExternalId reference target =>
          rw [run, Store.createExternalId] at ran
          split at ran
          · cases ran
          · cases ran
            cases kind <;> exact stays present
      | fillNullColumn table column value =>
          rw [run, Store.fillNullColumn] at ran
          split at ran
          · cases ran
          · split at ran
            · cases ran
            · cases ran
              cases kind <;> exact stays present
      | releaseSavepoint name =>
          rw [run, Store.releaseSavepoint] at ran
          split at ran
          · cases ran
          · cases ran
            exact stays present
      | read other ids fields =>
          cases congrArg Prod.snd ran
          exact stays present
      | entityTypes | resolveGroup | search | findExternalId | savepoint
      | tablesWithColumn =>
          cases ran
          exact stays present

end Call

/-- No record has an id above the bound. -/
def StoreData.Below (bound : RecordId) (data : StoreData) : Prop :=
  ∀ kind, ∀ id ∈ data.records kind, id ≤ bound

theorem StoreData.Below.mono {bound higher : RecordId} {data : StoreData}
    (below : data.Below bound) (le : bound ≤ higher) : data.Below higher := by
  intro kind id present
  exact Int.le_trans (below kind id present) le

/-- Replacing the records of one kind by records below the bound. -/
theorem StoreData.Below.withRecords {bound : RecordId} {data : StoreData}
    (below : data.Below bound) (kind : RecordKind) {table : RecordTable}
    (tableBelow : ∀ id ∈ table, id ≤ bound) : (data.withRecords kind table).Below bound := by
  intro other id present
  by_cases same : other = kind
  · subst same
    rw [StoreData.records_withRecords_self] at present
    exact tableBelow id present
  · rw [StoreData.records_withRecords_of_ne data table same] at present
    exact below other id present

namespace Store

/-- Ids lie below the last one that was handed out, and entity types have ids of
their own. -/
structure WellFormed (store : Store) : Prop where
  data : store.data.Below store.lastId
  savepoints : ∀ savepoint ∈ store.savepoints, savepoint.data.Below store.lastId
  catalog : ∀ entityType ∈ store.entityTypes, entityType.id ≤ store.lastId
  distinct : (store.entityTypes.map (·.id)).Nodup

theorem WellFormed.empty : WellFormed {} where
  data := by
    intro kind id present
    cases kind <;> simp [StoreData.records] at present
  savepoints := by simp
  catalog := by simp
  distinct := by simp

variable {store : Store}

/-- Handing out an id keeps everything below the last one. -/
theorem WellFormed.allocate (formed : store.WellFormed) : store.allocate.2.WellFormed where
  data := formed.data.mono (Int.le_add_one (Int.le_refl _))
  savepoints := by
    intro savepoint opened
    exact (formed.savepoints savepoint opened).mono (Int.le_add_one (Int.le_refl _))
  catalog := by
    intro entityType listed
    exact Int.le_add_one (formed.catalog entityType listed)
  distinct := formed.distinct

theorem WellFormed.putRecord (formed : store.WellFormed) (kind : RecordKind) {id : RecordId}
    (values : Values) (handedOut : id ≤ store.lastId) :
    (store.putRecord kind id values).WellFormed where
  data := by
    apply formed.data.withRecords kind
    intro other present
    rcases Std.ExtTreeMap.mem_insert.mp present with same | present
    · rw [← Std.LawfulEqOrd.eq_of_compare same]
      exact handedOut
    · exact formed.data kind other present
  savepoints := formed.savepoints
  catalog := formed.catalog
  distinct := formed.distinct

theorem WellFormed.insertRecord (formed : store.WellFormed) (kind : RecordKind)
    (values : Values) : (store.insertRecord kind values).2.WellFormed :=
  formed.allocate.putRecord kind values (Int.le_refl _)

theorem WellFormed.addEntityType (formed : store.WellFormed) (name : String) :
    (store.addEntityType name).2.WellFormed where
  data := formed.allocate.data
  savepoints := formed.allocate.savepoints
  catalog := by
    intro entityType listed
    rcases List.mem_append.mp listed with listed | listed
    · exact formed.allocate.catalog entityType listed
    · rw [List.mem_singleton.mp listed]
      exact Int.le_refl _
  distinct := by
    change ((store.entityTypes ++ [(⟨store.lastId + 1, name⟩ : EntityType)]).map
      EntityType.id).Nodup
    rw [List.map_append, List.nodup_append]
    refine ⟨formed.distinct, by simp, ?_⟩
    intro id listed other added same
    obtain ⟨entityType, membership, rfl⟩ := List.mem_map.mp listed
    have known := formed.catalog entityType membership
    rw [List.map_singleton, List.mem_singleton] at added
    rw [same, added] at known
    exact absurd known (Int.not_le.mpr (Int.lt_succ _))

theorem WellFormed.addGroup (formed : store.WellFormed) (reference : Reference) :
    (store.addGroup reference).2.WellFormed where
  data := formed.allocate.data
  savepoints := formed.allocate.savepoints
  catalog := formed.allocate.catalog
  distinct := formed.distinct

theorem WellFormed.below_versions (formed : store.WellFormed) {data : StoreData}
    (version : data ∈ store.versions) : data.Below store.lastId := by
  rcases mem_versions.mp version with rfl | ⟨savepoint, opened, rfl⟩
  · exact formed.data
  · exact formed.savepoints savepoint opened

/-- Every call keeps the ids in order: records have ids that were there before it, or the one
that it handed out. -/
theorem WellFormed.call {α : Type} (formed : store.WellFormed) (request : Call α) :
    (request.run store).2.WellFormed := by
  have setting := request.run_sameSetting store
  refine ⟨?_, ?_, ?_, ?_⟩
  · intro kind id present
    rcases request.origin present with ⟨data, version, earlier⟩ | handsOut
    · exact Int.le_trans (formed.below_versions version kind id earlier) setting.lastId_le
    · rw [request.lastId_run, handsOut]
      exact Int.le_refl id
  · intro savepoint opened
    exact (formed.below_versions (request.versions_of_savepoint opened)).mono setting.lastId_le
  · rw [setting.entityTypes]
    intro entityType listed
    exact Int.le_trans (formed.catalog entityType listed) setting.lastId_le
  · rw [setting.entityTypes]
    exact formed.distinct

theorem WellFormed.apply (formed : store.WellFormed) (operation : Operation) :
    (operation.apply store).WellFormed := by
  cases operation with
  | addEntityType name => exact formed.addEntityType name
  | addGroup reference => exact formed.addGroup reference
  | insertRecord kind values => exact formed.insertRecord kind values
  | call request => exact formed.call request
  | addTable | insertExternalId =>
      refine ⟨?_, formed.savepoints, formed.catalog, formed.distinct⟩
      intro kind id present
      apply formed.data kind id
      cases kind <;> exact present
  | rejectWrites | rejectTable | resetCounts =>
      exact ⟨formed.data, formed.savepoints, formed.catalog, formed.distinct⟩

/-- No record has the id that is handed out next. -/
theorem WellFormed.fresh (formed : store.WellFormed) (kind : RecordKind) :
    (store.data.records kind)[store.lastId + 1]? = none := by
  apply Std.ExtTreeMap.getElem?_eq_none
  intro present
  exact absurd (formed.data kind _ present) (Int.not_le.mpr (Int.lt_succ _))

/-- Any operations lead from one reachable store to another. -/
theorem Reachable.foldl (reached : store.Reachable) (operations : List Operation) :
    (operations.foldl Operation.apply store).Reachable := by
  induction operations generalizing store with
  | nil => exact reached
  | cons operation operations ih => exact ih (reached.step operation)

theorem Reachable.wellFormed (reached : store.Reachable) : store.WellFormed := by
  induction reached with
  | empty => exact .empty
  | step _ operation formed => exact formed.apply operation

end Store

end TenantGuard
