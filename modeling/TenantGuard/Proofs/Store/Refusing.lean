import TenantGuard.Proofs.Except
import TenantGuard.Proofs.Store.Calls
import TenantGuard.Proofs.Store.Matching

/-!
# Calls that the store refuses

Six of the fourteen calls change the store only under a condition, and reading needs the records
to be there.  The conditions are listed here as reasons to refuse a call, each with its error.
A call fails exactly if there is a reason to refuse it, and then nothing has changed: neither
the data nor the savepoints, the last id or the counters.
-/

namespace TenantGuard

/-- What a store refuses, and with which error. -/
inductive Call.Refused (store : Store) : {α : Type} → Call α → StoreError → Prop where
  /-- The first of the ids without a record is reported. -/
  | read {kind : RecordKind} {earlier later : List RecordId} {id : RecordId}
      (fields : List String) (present : ∀ known ∈ earlier, known ∈ store.data.records kind)
      (missing : id ∉ store.data.records kind) :
      Refused store (.read kind (earlier ++ id :: later) fields) (.recordMissing kind id)
  | create {kind : RecordKind} {values : Values} {model : RecordId}
      (about : values.read "model_id" = .ref model)
      (rejects : (kind, model) ∈ store.rejectedWrites) :
      Refused store (.create kind values) (.writeRejected kind model)
  | writeMissing {kind : RecordKind} {id : RecordId} (values : Values)
      (missing : id ∉ store.data.records kind) :
      Refused store (.write kind id values) (.recordMissing kind id)
  /-- What counts is the entity type that the record is about before it is written. -/
  | write {kind : RecordKind} {id model : RecordId} {current : Values} (values : Values)
      (stored : (store.data.records kind)[id]? = some current)
      (about : current.read "model_id" = .ref model)
      (rejects : (kind, model) ∈ store.rejectedWrites) :
      Refused store (.write kind id values) (.writeRejected kind model)
  | createExternalId {reference : Reference} {bound : Target} (target : Target)
      (taken : store.externalId? reference = some bound) :
      Refused store (.createExternalId reference target) (.identifierTaken reference)
  | releaseSavepoint {name : String}
      (missing : ∀ savepoint ∈ store.savepoints, savepoint.name ≠ name) :
      Refused store (.releaseSavepoint name) (.savepointMissing name)
  | rollbackToSavepoint {name : String}
      (missing : ∀ savepoint ∈ store.savepoints, savepoint.name ≠ name) :
      Refused store (.rollbackToSavepoint name) (.savepointMissing name)
  | fillRejected {table : String} (column : String) (value : Int)
      (rejects : table ∈ store.rejectedTables) :
      Refused store (.fillNullColumn table column value) (.tableRejected table)
  | fillMissing {table column : String} (value : Int) (accepts : table ∉ store.rejectedTables)
      (missing : store.column? table column = none) :
      Refused store (.fillNullColumn table column value) (.columnMissing table column)

namespace Store

variable {store : Store} {kind : RecordKind} {id : RecordId}

theorem read_eq_error_iff {fields : List String} {cause : StoreError} :
    store.read kind fields id = .error cause ↔
      id ∉ store.data.records kind ∧ cause = .recordMissing kind id := by
  rw [read, Std.ExtTreeMap.mem_iff_isSome_getElem?]
  cases (store.data.records kind)[id]? with
  | none => simp [eq_comm]
  | some values => simp

theorem exists_read_iff {fields : List String} :
    (∃ values, store.read kind fields id = .ok values) ↔ id ∈ store.data.records kind := by
  rw [read, Std.ExtTreeMap.mem_iff_isSome_getElem?]
  cases (store.data.records kind)[id]? with
  | none => simp
  | some values => simp

end Store

namespace Call

variable {α : Type} {store : Store} {request : Call α} {cause : StoreError}

/-- Whatever there is a reason to refuse fails, for that reason. -/
theorem Refused.fails (refused : request.Refused store cause) :
    (request.run store).1 = .error cause := by
  cases refused with
  | read fields present missing =>
      rw [run, Except.mapM_eq_error]
      exact ⟨_, _, _, rfl, fun known listed => Store.exists_read_iff.mpr (present known listed),
        Store.read_eq_error_iff.mpr ⟨missing, rfl⟩⟩
  | create about rejects =>
      rw [run, Store.create, Store.rejectedModel?_eq_some_iff.mpr ⟨about, rejects⟩]
  | writeMissing values missing =>
      rw [run, Store.write, Std.ExtTreeMap.getElem?_eq_none missing]
  | write values stored about rejects =>
      rw [run, Store.write, stored]
      dsimp only
      rw [Store.rejectedModel?_eq_some_iff.mpr ⟨about, rejects⟩]
  | createExternalId target taken => rw [run, Store.createExternalId, taken]
  | releaseSavepoint missing =>
      rw [run, Store.releaseSavepoint, Store.popTo?_eq_none_iff.mpr missing]
  | rollbackToSavepoint missing =>
      rw [run, Store.rollbackToSavepoint, Store.popTo?_eq_none_iff.mpr missing]
  | fillRejected column value rejects => rw [run, Store.fillNullColumn, if_pos rejects]
  | fillMissing value accepts missing =>
      rw [run, Store.fillNullColumn, if_neg accepts, missing]

/-- A call that fails was refused for a reason. -/
theorem refused_of_fails (failed : (request.run store).1 = .error cause) :
    request.Refused store cause := by
  cases request with
  | read kind ids fields =>
      rw [run, Except.mapM_eq_error] at failed
      obtain ⟨earlier, id, later, rfl, succeeded, failed⟩ := failed
      obtain ⟨missing, rfl⟩ := Store.read_eq_error_iff.mp failed
      exact .read fields (fun known listed => Store.exists_read_iff.mp (succeeded known listed))
        missing
  | create kind values =>
      obtain ⟨model, rejected, rfl⟩ := Store.create_eq_error failed
      obtain ⟨about, rejects⟩ := Store.rejectedModel?_eq_some_iff.mp rejected
      exact .create about rejects
  | write kind id values =>
      by_cases present : id ∈ store.data.records kind
      · obtain ⟨current, stored⟩ := RecordTable.mem_iff_stored.mp present
        obtain ⟨model, rejected, rfl⟩ := Store.write_eq_error stored failed
        obtain ⟨about, rejects⟩ := Store.rejectedModel?_eq_some_iff.mp rejected
        exact .write values stored about rejects
      · rw [run, Store.write, Std.ExtTreeMap.getElem?_eq_none present] at failed
        cases failed
        exact .writeMissing values present
  | createExternalId reference target =>
      rw [run, Store.createExternalId] at failed
      split at failed
      next bound taken =>
        cases failed
        exact .createExternalId target taken
      · cases failed
  | releaseSavepoint name =>
      rw [run, Store.releaseSavepoint] at failed
      split at failed
      next missing =>
        cases failed
        exact .releaseSavepoint (Store.popTo?_eq_none_iff.mp missing)
      · cases failed
  | rollbackToSavepoint name =>
      rw [run, Store.rollbackToSavepoint] at failed
      split at failed
      next missing =>
        cases failed
        exact .rollbackToSavepoint (Store.popTo?_eq_none_iff.mp missing)
      · cases failed
  | fillNullColumn table column value =>
      rw [run, Store.fillNullColumn] at failed
      split at failed
      next rejects =>
        cases failed
        exact .fillRejected column value rejects
      next accepts =>
        split at failed
        next missing =>
          cases failed
          exact .fillMissing value accepts missing
        · cases failed
  | entityTypes | resolveGroup | search | unlink | findExternalId | savepoint
  | tablesWithColumn => cases failed

/-- A call fails exactly if there is a reason to refuse it, and then it has no effect: the
store that remains is the store before the call. -/
theorem run_eq_error_iff (store after : Store) (request : Call α) (cause : StoreError) :
    request.run store = (.error cause, after) ↔ request.Refused store cause ∧ after = store := by
  constructor
  · intro ran
    have failed : (request.run store).1 = .error cause := by rw [ran]
    have kept := request.run_eq_of_error store failed
    rw [ran] at kept
    exact ⟨refused_of_fails failed, kept⟩
  · rintro ⟨refused, rfl⟩
    have failed := refused.fails
    exact Prod.ext failed (request.run_eq_of_error after failed)

end Call

end TenantGuard
