import TenantGuard.Proofs.Engine.Aborting

/-!
# The savepoints that a run leaves open

The savepoints of entity types and tables may stay open when a call is lost.  They never
come into the way of others, and closing the savepoint of the half they belong to sweeps
them away.  So a run leaves the savepoints as it found them exactly if it gets to close
both of its own.
-/

namespace TenantGuard

/-- The savepoints that were open still are, and there are others on top of them unless the
condition holds. -/
def Store.Unwinds (before : Store) (closed : Prop) (after : Store) : Prop :=
  ∃ newer, after.savepoints = newer ++ before.savepoints ∧ (newer = [] ↔ closed)

namespace Store.Unwinds

variable {closed closedToo : Prop} {before between after : Store}

theorem of_eq (same : after.savepoints = before.savepoints) (closes : closed) :
    before.Unwinds closed after :=
  ⟨[], same, iff_of_true rfl closes⟩

/-- A savepoint that was not closed stays open, with all that were opened after it. -/
theorem of_open {savepoint : Savepoint} {newer : List Savepoint} (unclosed : ¬ closed)
    (stays : after.savepoints = newer ++ savepoint :: before.savepoints) :
    before.Unwinds closed after :=
  ⟨newer ++ [savepoint], by simp [stays], iff_of_false (by simp) unclosed⟩

theorem trans (first : before.Unwinds closed between) (second : between.Unwinds closedToo after) :
    before.Unwinds (closed ∧ closedToo) after := by
  obtain ⟨newer, split, emptied⟩ := first
  obtain ⟨newest, splitAgain, emptiedToo⟩ := second
  refine ⟨newest ++ newer, ?_, ?_⟩
  · rw [splitAgain, split, List.append_assoc]
  · rw [List.append_eq_nil_iff, emptied, emptiedToo, and_comm]

theorem savepoints_eq_iff (unwinds : before.Unwinds closed after) :
    after.savepoints = before.savepoints ↔ closed := by
  obtain ⟨newer, split, emptied⟩ := unwinds
  rw [split, List.append_left_eq_self, emptied]

end Store.Unwinds

namespace Secure

variable {α : Type}

/-- What closes the savepoint of some work, by how the work ended. -/
def closing : Except EngineError α → Method
  | .ok _ => .releaseSavepoint
  | .error _ => .rollbackToSavepoint

/-- The call that closes the savepoint of some work is not lost.  If the savepoint could not
be opened, there is no such call. -/
def Closes (session : Session) (name : String) (work : Step α) : Prop :=
  session.Ensures (Step.call (.savepoint name) >>= fun _ => work.attempt)
    (fun ended reached => reached.host.schedule reached.host.journal (closing ended) = none)
    (fun _ _ => True)

instance {session : Session} {name : String} {work : Step α} :
    Decidable (Closes session name work) :=
  inferInstanceAs (Decidable (session.Ensures _ _ _))

theorem closes_of_unopened {session stopped : Session} {name : String} {work : Step α}
    {error : EngineError}
    (ran : session.run (Step.call (.savepoint name)) = (.error error, stopped)) :
    Closes session name work := by
  rw [Closes, Session.Ensures, Session.run_bind, ran]
  trivial

theorem closes_iff_of_opened {session opened : Session} {name : String} {work : Step α}
    (ran : session.run (Step.call (.savepoint name)) = (.ok (), opened)) :
    Closes session name work ↔
      (opened.run work).2.host.schedule (opened.run work).2.host.journal
        (closing (opened.run work).1) = none := by
  rw [Closes, Session.Ensures, Session.run_bind, ran]
  rfl

/-- Whatever work leaves open on top of its savepoint is swept away with it, as long as the
call that closes the savepoint is not lost. -/
theorem within_unwinds {session : Session} {name : String} {work : Step α}
    (leaves : ∀ opened : Session, opened.host.store = session.host.store.savepoint name →
      session.host.Continues opened.host →
      opened.Ensures work (fun _ reached => opened.host.store.Atop name reached.host.store)
        (fun _ reached => opened.host.store.Atop name reached.host.store)) :
    session.Ensures (within name work)
      (fun _ after => session.host.store.Unwinds (Closes session name work) after.host.store)
      (fun _ after =>
        session.host.store.Unwinds (Closes session name work) after.host.store) := by
  have opens : session.Ensures (Step.call (.savepoint name))
      (fun _ opened => opened.host.store = session.host.store.savepoint name ∧
        session.host.Continues opened.host)
      (fun _ stopped => stopped.host.store = session.host.store) := by
    apply Session.ensures_call
    · exact fun _ opened answered => ⟨answered.store, answered.continues⟩
    · exact fun _ stopped failed => failed.store
  rw [within]
  apply Session.ensures_bind
  obtain ⟨⟨⟩, opened, ran⟩ | ⟨error, stopped, ran⟩ :=
    session.returns_or_stops (Step.call (.savepoint name))
  · rw [Session.ensures_of_returned ran] at opens ⊢
    obtain ⟨saved, goesOn⟩ := opens
    have worked := Session.ensures_either_iff.mp (leaves opened saved goesOn)
    rw [saved] at worked
    -- The call that closes is made in the session that the work leaves, so its fate hangs on
    -- how the work ends.
    rw [closes_iff_of_opened ran]
    apply Session.ensures_bind
    apply Session.ensures_attempt
    obtain ⟨value, reached, ranWork⟩ | ⟨error, reached, ranWork⟩ := opened.returns_or_stops work
    · rw [ranWork] at worked ⊢
      rw [Session.ensures_of_returned ranWork]
      have found := worked.popTo?
      obtain ⟨newer, stack, _⟩ := worked
      apply Session.ensures_bind
      apply (Session.ensures_call_answered (Call.run_releaseSavepoint found)).imp
      · rintro ⟨⟩ after ⟨closed, left⟩
        apply Session.ensures_pure
        exact .of_eq (by rw [left]) closed
      · rintro _ after ⟨lost, left⟩
        rw [← left] at stack
        exact .of_open lost stack
    · rw [ranWork] at worked ⊢
      rw [Session.ensures_of_stopped ranWork]
      have found := worked.popTo?
      obtain ⟨newer, stack, _⟩ := worked
      apply Session.ensures_bind
      apply Session.ensures_attempt
      apply (Session.ensures_call_answered (Call.run_rollbackToSavepoint found)).imp
      · rintro ⟨⟩ after ⟨closed, left⟩
        apply Session.ensures_throw
        exact .of_eq (by rw [left]) closed
      · rintro _ after ⟨lost, left⟩
        apply Session.ensures_bind_warn
        intro warned sameHost
        apply Session.ensures_throw
        rw [← left, ← sameHost] at stack
        exact .of_open lost stack
  · rw [Session.ensures_of_stopped ran] at opens ⊢
    exact .of_eq (by rw [opens]) (closes_of_unopened ran)

theorem reconcile_unwinds {session : Session} (orderly : session.host.Orderly) (policy : Policy) :
    session.host.store.Unwinds (Closes session reconcileSavepoint (Reconcile.all policy))
      (session.act (reconcile policy)).2.host.store := by
  rw [host_reconcile]
  apply Session.ensures_either_iff.mp (within_unwinds _)
  intro opened _ goesOn
  apply (Reconcile.all_ensures (goesOn.orderly orderly) policy).imp
  · exact fun _ reached pass => pass.atop
  · exact fun _ reached stopped => .of_eq (by rw [stopped.1])

theorem backfill_unwinds (session : Session) (policy : Policy) :
    session.host.store.Unwinds
      (policy.config.backfill.enabled →
        Closes session backfillSavepoint (Backfill.all policy.config.backfill))
      (session.act (backfill policy)).2.host.store := by
  rw [host_backfill]
  split
  next enabled =>
    rw [forall_prop_of_true enabled]
    apply Session.ensures_either_iff.mp (within_unwinds _)
    intro opened _ _
    apply (Backfill.all_ensures policy.config.backfill).imp
    · exact fun _ reached ⟨_, run⟩ => .of_eq run.savepoints
    · exact fun _ reached stopped => stopped.2.2
  next off => exact .of_eq rfl fun enabled => absurd enabled off

end Secure

/-- Whichever calls are lost or refused, and whatever savepoints were open before, a run
leaves the savepoints as they were exactly if the calls that close its own two are not
lost. -/
theorem secure_savepoints (policy : Policy) {session : Session}
    (orderly : session.host.Orderly) :
    let passed := (session.act (Secure.reconcile policy)).2
    let after := (session.act (secure policy)).2
    after.host.store.savepoints = session.host.store.savepoints ↔
      Secure.Closes session Secure.reconcileSavepoint (Reconcile.all policy) ∧
        (policy.config.backfill.enabled →
          Secure.Closes passed Secure.backfillSavepoint
            (Backfill.all policy.config.backfill)) := by
  intro passed after
  have first := Secure.reconcile_unwinds orderly policy
  have second := Secure.backfill_unwinds passed policy
  have sameHost : after.host = (passed.act (Secure.backfill policy)).2.host :=
    (secure_of_halves session policy).2
  rw [sameHost]
  exact (first.trans second).savepoints_eq_iff

/-- The founded store with savepoints left open under all the names that the engine uses,
behind a host that loses the calls to close the savepoints of the entity type and of the
table. -/
def Store.cluttered : Host where
  store := [Backfill.tableSavepoint, Secure.backfillSavepoint, Reconcile.entitySavepoint,
    Secure.reconcileSavepoint].foldl Store.savepoint founded
  schedule := (Schedule.none.arm .releaseSavepoint 0 false (.unreachable ["connection lost"])).arm
    .releaseSavepoint 2 false (.unreachable ["connection lost"])

theorem secure_savepoints_cluttered :
    let policy : Policy := { classifier := .empty, config := {} }
    let session : Session := { host := Store.cluttered }
    let after := (session.act (secure policy)).2
    session.host.Orderly ∧
      after.host.failures = [.releaseSavepoint, .releaseSavepoint] ∧
      after.host.store.savepoints = session.host.store.savepoints := by
  intro policy session after
  have orderly : session.host.Orderly := fun _ => .refl _
  refine ⟨orderly, by decide +kernel, (secure_savepoints policy orderly).mpr ⟨?_, fun _ => ?_⟩⟩
  · decide +kernel
  · decide +kernel

end TenantGuard
