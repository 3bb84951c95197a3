import TenantGuard.Proofs.Store.Reachable

/-!
# What savepoints bring back

Between the opening and the closing of a savepoint others may be opened and closed, also of
the same name, and some may be left open.  As long as nothing is closed that was open before,
and no inner savepoint of the name is left, closing finds the savepoint that was opened:
going back to it restores the data and the savepoints of that moment, and releasing it keeps
the data and restores the savepoints.

Which savepoints a run of operations leaves open can be told from their names alone.
-/

namespace TenantGuard

/-- The names that remain when the latest one of this name is closed, and with it those
opened after it. -/
def Store.closeLatest? (name : String) : List String → Option (List String)
  | [] => none
  | latest :: earlier => if latest = name then some earlier else closeLatest? name earlier

/-- The inner savepoints that are open after a call, latest first, given those before it.  A
call that closes none of the inner savepoints leaves none. -/
def Call.stillOpen? {α : Type} (inner : List String) : Call α → Option (List String)
  | .savepoint name => some (name :: inner)
  | .releaseSavepoint name | .rollbackToSavepoint name => Store.closeLatest? name inner
  | _ => some inner

namespace Store

/-- Of the operations, only calls open and close savepoints. -/
def Operation.stillOpen? (inner : List String) : Operation → Option (List String)
  | .call request => request.stillOpen? inner
  | _ => some inner

/-- The inner savepoints that a run of operations leaves open, if it closes no other. -/
def leftOpen? (operations : List Operation) : Option (List String) :=
  operations.foldlM Operation.stillOpen? []

/-- The savepoints of the base are open, beneath inner ones of these names. -/
def Above (base : List Savepoint) (inner : List String) (store : Store) : Prop :=
  ∃ newer, store.savepoints = newer ++ base ∧ newer.map (·.name) = inner

variable {base : List Savepoint} {inner remaining : List String} {store : Store}

/-- Where the names tell that an inner savepoint is closed, that one is found. -/
theorem popTo?_append (base : List Savepoint) {name : String} {newer : List Savepoint}
    (closes : closeLatest? name (newer.map (·.name)) = some remaining) :
    ∃ data left, popTo? name (newer ++ base) = some (data, left ++ base) ∧
      left.map (·.name) = remaining := by
  induction newer with
  | nil => cases closes
  | cons latest earlier ih =>
      rw [List.map_cons, closeLatest?] at closes
      rw [List.cons_append, popTo?]
      split at closes
      next named =>
        rw [if_pos named]
        cases closes
        exact ⟨latest.data, earlier, rfl, rfl⟩
      next unlike =>
        rw [if_neg unlike]
        exact ih closes

namespace Above

/-- A call closes inner savepoints at most. -/
theorem call {α : Type} (above : store.Above base inner) {request : Call α}
    (opens : request.stillOpen? inner = some remaining) :
    (request.run store).2.Above base remaining := by
  obtain ⟨newer, split, rfl⟩ := above
  cases request with
  | savepoint name =>
      cases opens
      exact ⟨⟨name, store.data⟩ :: newer, congrArg (_ :: ·) split, rfl⟩
  | releaseSavepoint name =>
      obtain ⟨data, left, found, named⟩ := popTo?_append base opens
      rw [← split] at found
      rw [Call.run_releaseSavepoint found]
      exact ⟨left, rfl, named⟩
  | rollbackToSavepoint name =>
      obtain ⟨data, left, found, named⟩ := popTo?_append base opens
      rw [← split] at found
      rw [Call.run_rollbackToSavepoint found]
      exact ⟨left, rfl, named⟩
  | entityTypes | resolveGroup | search | read | create | write | unlink | findExternalId
  | createExternalId | tablesWithColumn | fillNullColumn =>
      cases opens
      refine ⟨newer, (Call.savepoints_run store _ ?_).trans split, rfl⟩
      exact Bool.false_ne_true

theorem apply (above : store.Above base inner) {operation : Operation}
    (opens : operation.stillOpen? inner = some remaining) :
    (operation.apply store).Above base remaining := by
  cases operation with
  | call request => exact above.call opens
  | addEntityType | addGroup | insertRecord | addTable | insertExternalId | rejectWrites
  | rejectTable | resetCounts =>
      cases opens
      exact above

theorem foldl (above : store.Above base inner) {operations : List Operation}
    (opens : operations.foldlM Operation.stillOpen? inner = some remaining) :
    (operations.foldl Operation.apply store).Above base remaining := by
  induction operations generalizing store inner with
  | nil =>
      cases opens
      exact above
  | cons operation operations ih =>
      rw [List.foldlM_cons] at opens
      obtain ⟨between, first, others⟩ := Option.bind_eq_some_iff.mp opens
      exact ih (above.apply first) others

end Above

/-- Savepoints restore exactly.  After any operations that close none but inner savepoints and
leave no inner one of the name open, going back succeeds and restores the data and the
savepoints from before the savepoint was opened; releasing succeeds too, keeps the data and
restores the savepoints. -/
theorem savepoint_restores (store : Store) (name : String) {operations : List Operation}
    (opens : leftOpen? operations = some remaining) (closed : name ∉ remaining) :
    let opened := Operation.apply store (.call (.savepoint name))
    let reached := operations.foldl Operation.apply opened
    (Call.rollbackToSavepoint name).run reached =
        (.ok (), { reached with data := store.data, savepoints := store.savepoints }) ∧
      (Call.releaseSavepoint name).run reached =
        (.ok (), { reached with savepoints := store.savepoints }) := by
  intro opened reached
  have above : opened.Above (⟨name, store.data⟩ :: store.savepoints) [] := ⟨[], rfl, rfl⟩
  obtain ⟨newer, split, rfl⟩ := above.foldl opens
  have found : popTo? name reached.savepoints = some (store.data, store.savepoints) := by
    refine popTo?_eq_some_iff.mpr ⟨newer, split, ?_⟩
    rintro savepoint listed rfl
    exact closed (List.mem_map_of_mem listed)
  exact ⟨Call.run_rollbackToSavepoint found, Call.run_releaseSavepoint found⟩

/-- A savepoint of the name is open already, another one is opened and gone back to inside,
and one of another name stays open inside. -/
theorem savepoint_restores_nested :
    let store : Store :=
      [Operation.insertRecord .rule ∅, .call (.savepoint "pass")].foldl Operation.apply {}
    let operations : List Operation :=
      [.call (.savepoint "pass"), .call (.create .rule ∅), .call (.rollbackToSavepoint "pass"),
        .call (.savepoint "entity"), .call (.unlink .rule [1])]
    let opened := Operation.apply store (.call (.savepoint "pass"))
    let reached := operations.foldl Operation.apply opened
    leftOpen? operations = some ["entity"] ∧
      (store.records .rule).map (·.1) = [1] ∧ reached.records .rule = [] ∧
      store.savepoints.map (·.name) = ["pass"] ∧
      (Call.rollbackToSavepoint "pass").run reached =
        (.ok (), { reached with data := store.data, savepoints := store.savepoints }) ∧
      (Call.releaseSavepoint "pass").run reached =
        (.ok (), { reached with savepoints := store.savepoints }) := by
  intro store operations opened reached
  exact ⟨rfl, by decide +kernel, by decide +kernel, rfl,
    savepoint_restores store "pass" rfl (by decide)⟩

end Store

end TenantGuard
