import TenantGuard.Store.Host

/-!
# What calls leave alone

A call that fails leaves the store as it was, since every call checks what it
needs first.  No call at all changes the catalog, the groups or what the store
refuses, and none takes back an id that was handed out.
-/

namespace TenantGuard

/-- What stands around the data of a store, and what no call changes of it. -/
structure Store.SameSetting (before after : Store) : Prop where
  entityTypes : after.entityTypes = before.entityTypes
  groups : after.groups = before.groups
  rejectedWrites : after.rejectedWrites = before.rejectedWrites
  rejectedTables : after.rejectedTables = before.rejectedTables
  lastId_le : before.lastId ≤ after.lastId

namespace Store

variable {before between after : Store}

theorem SameSetting.refl (store : Store) : store.SameSetting store :=
  ⟨rfl, rfl, rfl, rfl, Int.le_refl _⟩

theorem SameSetting.trans (first : before.SameSetting between)
    (second : between.SameSetting after) : before.SameSetting after where
  entityTypes := second.entityTypes.trans first.entityTypes
  groups := second.groups.trans first.groups
  rejectedWrites := second.rejectedWrites.trans first.rejectedWrites
  rejectedTables := second.rejectedTables.trans first.rejectedTables
  lastId_le := Int.le_trans first.lastId_le second.lastId_le

/-- The latest savepoint is found first. -/
theorem popTo?_head (name : String) (data : StoreData) (earlier : List Savepoint) :
    popTo? name (⟨name, data⟩ :: earlier) = some (data, earlier) := by
  rw [popTo?, if_pos rfl]

/-- No savepoint is found if none has the name. -/
theorem popTo?_eq_none_iff {name : String} {savepoints : List Savepoint} :
    popTo? name savepoints = none ↔ ∀ savepoint ∈ savepoints, savepoint.name ≠ name := by
  induction savepoints with
  | nil => simp [popTo?]
  | cons latest earlier ih =>
      rw [popTo?, List.forall_mem_cons, ← ih]
      split
      next named => simp [named]
      next unlike => simp [unlike]

/-- Finding a savepoint means that it is the latest of its name. -/
theorem popTo?_eq_some_iff {name : String} {savepoints earlier : List Savepoint}
    {data : StoreData} :
    popTo? name savepoints = some (data, earlier) ↔
      ∃ newer, savepoints = newer ++ ⟨name, data⟩ :: earlier ∧
        ∀ savepoint ∈ newer, savepoint.name ≠ name := by
  induction savepoints with
  | nil => simp [popTo?]
  | cons latest others ih =>
      rw [popTo?]
      split
      next named =>
        constructor
        · intro found
          cases found
          exact ⟨[], by rw [← named]; rfl, by simp⟩
        · rintro ⟨newer, split, unnamed⟩
          cases newer with
          | nil =>
              rw [List.nil_append, List.cons.injEq] at split
              rw [split.1, split.2]
          | cons head newer =>
              rw [List.cons_append, List.cons.injEq] at split
              rw [split.1] at named
              exact absurd named (unnamed head List.mem_cons_self)
      next unlike =>
        rw [ih]
        constructor
        · rintro ⟨newer, rfl, unnamed⟩
          refine ⟨latest :: newer, rfl, ?_⟩
          rw [List.forall_mem_cons]
          exact ⟨unlike, unnamed⟩
        · rintro ⟨newer, split, unnamed⟩
          cases newer with
          | nil =>
              rw [List.nil_append, List.cons.injEq] at split
              rw [split.1] at unlike
              exact absurd rfl unlike
          | cons head newer =>
              rw [List.cons_append, List.cons.injEq] at split
              rw [List.forall_mem_cons] at unnamed
              exact ⟨newer, split.2, unnamed.2⟩

end Store

namespace Call

variable {α : Type} (store : Store) (request : Call α)

/-- A savepoint that is there is closed. -/
theorem run_releaseSavepoint {store : Store} {name : String} {data : StoreData}
    {earlier : List Savepoint}
    (found : Store.popTo? name store.savepoints = some (data, earlier)) :
    (releaseSavepoint name).run store = (.ok (), { store with savepoints := earlier }) := by
  rw [run, Store.releaseSavepoint, found]

/-- A savepoint that is there is gone back to. -/
theorem run_rollbackToSavepoint {store : Store} {name : String} {data : StoreData}
    {earlier : List Savepoint}
    (found : Store.popTo? name store.savepoints = some (data, earlier)) :
    (rollbackToSavepoint name).run store =
      (.ok (), { store with data := data, savepoints := earlier }) := by
  rw [run, Store.rollbackToSavepoint, found]

/-- A call that fails has no effect. -/
theorem run_eq_of_error {cause : StoreError} (failed : (request.run store).1 = .error cause) :
    (request.run store).2 = store := by
  cases request with
  | create kind values =>
      rw [run, Store.create] at failed ⊢
      split
      · rfl
      next accepted =>
        rw [accepted] at failed
        cases failed
  | write kind id values =>
      rw [run, Store.write] at failed ⊢
      split
      · rfl
      next current present =>
        rw [present] at failed
        dsimp only at failed ⊢
        split
        · rfl
        next accepted =>
          rw [accepted] at failed
          cases failed
  | createExternalId reference target =>
      rw [run, Store.createExternalId] at failed ⊢
      split
      · rfl
      next free =>
        rw [free] at failed
        cases failed
  | releaseSavepoint name =>
      rw [run, Store.releaseSavepoint] at failed ⊢
      split
      · rfl
      next found =>
        rw [found] at failed
        cases failed
  | rollbackToSavepoint name =>
      rw [run, Store.rollbackToSavepoint] at failed ⊢
      split
      · rfl
      next found =>
        rw [found] at failed
        cases failed
  | fillNullColumn table column value =>
      rw [run, Store.fillNullColumn] at failed ⊢
      split
      · rfl
      next accepted =>
        rw [if_neg accepted] at failed
        split
        · rfl
        next filled =>
          rw [filled] at failed
          cases failed
  | read kind ids fields => rfl
  | entityTypes | resolveGroup | search | unlink | findExternalId | savepoint
  | tablesWithColumn => cases failed

/-- No call changes what stands around the data, except that it may hand out an
id. -/
theorem run_sameSetting : store.SameSetting (request.run store).2 := by
  cases request with
  | create kind values =>
      rw [run, Store.create]
      split
      · exact .refl store
      · exact ⟨rfl, rfl, rfl, rfl, Int.le_add_one (Int.le_refl _)⟩
  | write kind id values =>
      rw [run, Store.write]
      split
      · exact .refl store
      · split
        · exact .refl store
        · exact ⟨rfl, rfl, rfl, rfl, Int.le_refl _⟩
  | createExternalId reference target =>
      rw [run, Store.createExternalId]
      split
      · exact .refl store
      · exact ⟨rfl, rfl, rfl, rfl, Int.le_refl _⟩
  | releaseSavepoint name =>
      rw [run, Store.releaseSavepoint]
      split
      · exact .refl store
      · exact ⟨rfl, rfl, rfl, rfl, Int.le_refl _⟩
  | rollbackToSavepoint name =>
      rw [run, Store.rollbackToSavepoint]
      split
      · exact .refl store
      · exact ⟨rfl, rfl, rfl, rfl, Int.le_refl _⟩
  | fillNullColumn table column value =>
      rw [run, Store.fillNullColumn]
      split
      · exact .refl store
      · split
        · exact .refl store
        · exact ⟨rfl, rfl, rfl, rfl, Int.le_refl _⟩
  | entityTypes | resolveGroup | search | read | unlink | findExternalId | savepoint
  | tablesWithColumn => exact ⟨rfl, rfl, rfl, rfl, Int.le_refl _⟩

end Call

/-- Whether the method opens or closes a savepoint. -/
def Method.worksOnSavepoints : Method → Bool
  | .savepoint | .releaseSavepoint | .rollbackToSavepoint => true
  | .entityTypes | .resolveGroup | .search | .read | .create | .write | .unlink
  | .findExternalId | .createExternalId | .tablesWithColumn | .fillNullColumn => false

/-- Any other call leaves the savepoints alone. -/
theorem Call.savepoints_run {α : Type} (store : Store) (request : Call α)
    (others : ¬ request.method.worksOnSavepoints) :
    (request.run store).2.savepoints = store.savepoints := by
  cases request with
  | create kind values =>
      rw [run, Store.create]
      split
      · rfl
      · rfl
  | write kind id values =>
      rw [run, Store.write]
      split
      · rfl
      · split
        · rfl
        · rfl
  | createExternalId reference target =>
      rw [run, Store.createExternalId]
      split
      · rfl
      · rfl
  | fillNullColumn table column value =>
      rw [run, Store.fillNullColumn]
      split
      · rfl
      · split
        · rfl
        · rfl
  | entityTypes | resolveGroup | search | read | unlink | findExternalId
  | tablesWithColumn => rfl
  | savepoint | releaseSavepoint | rollbackToSavepoint => exact absurd rfl others

end TenantGuard
