import TenantGuard.Engine.Secure
import TenantGuard.Proofs.Engine.Pass

/-!
# Work under a savepoint

Work under a savepoint is kept if it returns and taken back if it stops, as long as
the calls that open and close the savepoint go through.  The work may leave
savepoints of its own open, provided that they have other names: closing the one
below closes them too.
-/

namespace TenantGuard

/-- The savepoints that were open still are, beneath others of different names. -/
def Store.Atop (name : String) (before after : Store) : Prop :=
  ∃ newer, after.savepoints = newer ++ before.savepoints ∧
    ∀ savepoint ∈ newer, savepoint.name ≠ name

namespace Store.Atop

variable {name : String} {before between after : Store}

theorem of_eq (same : after.savepoints = before.savepoints) : before.Atop name after :=
  ⟨[], same, by simp⟩

/-- A savepoint of another name is not mistaken for one of this name. -/
theorem of_top {other : String} {data : StoreData} (unlike : other ≠ name)
    (top : after.savepoints = ⟨other, data⟩ :: before.savepoints) : before.Atop name after := by
  refine ⟨[⟨other, data⟩], top, ?_⟩
  intro savepoint listed
  rw [List.mem_singleton.mp listed]
  exact unlike

theorem trans (first : before.Atop name between) (second : between.Atop name after) :
    before.Atop name after := by
  obtain ⟨newer, split, unlike⟩ := first
  obtain ⟨newest, splitAgain, unlikeAgain⟩ := second
  refine ⟨newest ++ newer, ?_, ?_⟩
  · rw [splitAgain, split, List.append_assoc]
  · rw [List.forall_mem_append]
    exact ⟨unlikeAgain, unlike⟩

/-- The savepoint opened before the others is found again beneath them. -/
theorem popTo? (atop : (before.savepoint name).Atop name after) :
    Store.popTo? name after.savepoints = some (before.data, before.savepoints) := by
  obtain ⟨newer, split, unlike⟩ := atop
  exact popTo?_eq_some_iff.mpr ⟨newer, split, unlike⟩

end Store.Atop

namespace Reconcile

variable {policy : Policy} {group : Option RecordId} {before after : Host}

theorem entitySavepoint_ne : entitySavepoint ≠ Secure.reconcileSavepoint := by
  decide

/-- However it goes, an entity type leaves at most its own savepoint open. -/
theorem EntityRun.atop {start outcome : EntityOutcome} {desired : List DesiredRecord}
    (run : EntityRun policy start desired before outcome after) :
    before.store.Atop Secure.reconcileSavepoint after.store := by
  cases run with
  | finished chain left | rolledBack hindered breaks left =>
      rw [left]
      exact .of_eq rfl
  | unopened lost left =>
      rw [left]
      exact .of_eq rfl
  | unclosed lost chain => exact .of_top entitySavepoint_ne (savepoints_of_chain chain)
  | abandoned lost breaks => exact .of_top entitySavepoint_ne breaks.savepoints

theorem atop_of_chain {entityTypes : List EntityType} {outcomes : List EntityOutcome}
    (chain : Chain (Reconciles policy group) entityTypes before outcomes after) :
    before.store.Atop Secure.reconcileSavepoint after.store :=
  chain.invariant (fun reached => before.store.Atop Secure.reconcileSavepoint reached.store)
    (fun reconciles atop => atop.trans reconciles.run.atop) (.of_eq rfl)

theorem PassRun.atop {summary : Summary} (pass : PassRun policy before summary after) :
    before.store.Atop Secure.reconcileSavepoint after.store := by
  obtain ⟨start, outcomes, sameStore, _, chain, _⟩ := pass.steps
  rw [← sameStore]
  exact atop_of_chain chain

end Reconcile

namespace Secure

variable {α : Type}

/-- How work under a savepoint can stop, and which call failed last. -/
inductive Fails (before : Host) (returned : Session → Prop)
    (stopped : EngineError → Session → Prop) (error : EngineError) (after : Host) : Prop where
  | unopened (lost : before.Loses .savepoint) (left : after.store = before.store)
      (failures : after.failures = .savepoint :: before.failures)
  | unreleased {reached : Session} (lost : before.Loses .releaseSavepoint)
      (worked : returned reached) (left : after.store = reached.host.store)
      (failures : after.failures = .releaseSavepoint :: reached.host.failures)
  | takenBack {reached : Session} (broken : stopped error reached)
      (left : after.store = { reached.host.store with
        data := before.store.data, savepoints := before.store.savepoints })
      (failures : after.failures = reached.host.failures)
  | stuck {reached : Session} (lost : before.Loses .rollbackToSavepoint)
      (broken : stopped error reached) (left : after.store = reached.host.store)
      (failures : after.failures = .rollbackToSavepoint :: reached.host.failures)

/-- Work under a savepoint is kept if it returns, and the savepoint is closed. -/
theorem within_ensures {session : Session} {name : String} {work : Step α}
    {returns : α → Session → Prop} {stops : EngineError → Session → Prop}
    (keeps : work.Keeps Host.Continues)
    (ensures : ∀ opened : Session, opened.host.store = session.host.store.savepoint name →
      session.host.Continues opened.host →
      opened.Ensures work
        (fun value reached => returns value reached ∧
          opened.host.store.Atop name reached.host.store)
        (fun error reached => stops error reached ∧
          opened.host.store.Atop name reached.host.store)) :
    session.Ensures (within name work)
      (fun value after => ∃ reached, returns value reached ∧
        after.host.store =
          { reached.host.store with savepoints := session.host.store.savepoints })
      (fun error after => Fails session.host (fun reached => ∃ value, returns value reached) stops
        error after.host) := by
  rw [within]
  apply Session.ensures_bind
  apply Session.ensures_call
  · rintro ⟨⟩ opened answered
    have saved : opened.host.store = session.host.store.savepoint name := answered.store
    have worked := (ensures opened saved answered.continues).and_keeps keeps
    rw [saved] at worked
    apply Session.ensures_bind
    apply Session.ensures_attempt
    apply worked.imp
    · rintro value reached ⟨⟨returned, atop⟩, goesOn⟩
      have found := atop.popTo?
      apply Session.ensures_bind
      apply Session.ensures_call
      · rintro ⟨⟩ released answeredRelease
        have left := answeredRelease.store
        rw [Call.run_releaseSavepoint found] at left
        exact Session.ensures_pure ⟨reached, returned, left⟩
      · intro _ after failed
        have lost := failed.loses (congrArg Prod.fst (Call.run_releaseSavepoint found))
        exact .unreleased ((answered.continues.trans goesOn).loses lost) ⟨value, returned⟩
          failed.store failed.failures
    · rintro error reached ⟨⟨broken, atop⟩, goesOn⟩
      have found := atop.popTo?
      apply Session.ensures_bind
      apply Session.ensures_attempt
      apply Session.ensures_call
      · rintro ⟨⟩ restored answeredRollback
        have left := answeredRollback.store
        rw [Call.run_rollbackToSavepoint found] at left
        exact Session.ensures_throw (.takenBack broken left answeredRollback.failures)
      · intro _ unrestored failed
        apply Session.ensures_bind_warn
        intro warned sameHost
        apply Session.ensures_throw
        rw [sameHost]
        have lost := failed.loses (congrArg Prod.fst (Call.run_rollbackToSavepoint found))
        exact .stuck ((answered.continues.trans goesOn).loses lost) broken failed.store
          failed.failures
  · intro _ after failed
    exact .unopened (failed.loses rfl) failed.store failed.failures

end Secure

end TenantGuard
