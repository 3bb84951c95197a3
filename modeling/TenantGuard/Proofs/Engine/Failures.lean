import TenantGuard.Proofs.Engine.Composition
import TenantGuard.Proofs.Engine.Run

/-!
# Failures that are passed on

The host writes down every call that fails.  The work on a desired record hides none
of them: it returns only if no call failed, and the first call that fails stops it.
It opens and closes no savepoint either, so that the savepoint under which it was
begun is still the latest one when it stops.
-/

namespace TenantGuard

variable {α β : Type}

/-- A call that works on records opens and closes no savepoint. -/
theorem Method.not_worksOnSavepoints {method : Method} (onRecords : method.worksOnRecords) :
    ¬ method.worksOnSavepoints := by
  cases method with
  | search | read | create | write | unlink | findExternalId | createExternalId =>
      exact Bool.false_ne_true
  | entityTypes | resolveGroup | savepoint | releaseSavepoint | rollbackToSavepoint
  | tablesWithColumn | fillNullColumn => cases onRecords

/-- A step that returns only if no call failed, and stops only at a call on records,
the one call that failed.  Either way the same savepoints are open as before. -/
def Step.Candid (step : Step α) : Prop :=
  ∀ session : Session, session.Ensures step
    (fun _ after => after.host.failures = session.host.failures ∧
      after.host.store.savepoints = session.host.store.savepoints)
    (fun _ after => (∃ method : Method, method.worksOnRecords ∧
        after.host.failures = method :: session.host.failures) ∧
      after.host.store.savepoints = session.host.store.savepoints)

namespace Step

theorem candid_pure (value : α) : Candid (pure value) :=
  fun _ => Session.ensures_pure ⟨rfl, rfl⟩

theorem candid_bind {first : Step β} {next : β → Step α} (firstCandid : first.Candid)
    (nextCandid : ∀ value, (next value).Candid) : Candid (first >>= next) := by
  intro session
  apply Session.ensures_bind
  apply (firstCandid session).imp
  · rintro value between ⟨noFailure, sameSavepoints⟩
    have ensures := nextCandid value between
    rw [noFailure, sameSavepoints] at ensures
    exact ensures
  · intro _ _ stopped
    exact stopped

theorem candid_call {request : Call α} (onRecords : request.method.worksOnRecords) :
    (Step.call request).Candid := by
  intro session
  apply Session.ensures_call
  · intro answer after answered
    refine ⟨answered.failures, ?_⟩
    rw [answered.store]
    exact request.savepoints_run _ (Method.not_worksOnSavepoints onRecords)
  · intro _ after failed
    exact ⟨⟨request.method, onRecords, failed.failures⟩, by rw [failed.store]⟩

/-- Events are no calls. -/
theorem candid_record (event : AuditEvent) : Candid (liftM (Action.record event)) := by
  intro session
  apply Session.ensures_lift
  apply Session.yields_record
  intro recorded sameHost
  rw [sameHost]
  exact ⟨rfl, rfl⟩

theorem candid_warn (event : LogEvent) : Candid (liftM (Action.warn event)) := by
  intro session
  apply Session.ensures_lift
  apply Session.yields_warn
  intro warned sameHost
  rw [sameHost]
  exact ⟨rfl, rfl⟩

/-- All the work on desired records is candid. -/
theorem candid_compositional : Step.Compositional fun _ step => step.Candid where
  pure := candid_pure
  bind := candid_bind
  call := candid_call
  record := candid_record
  warn := fun _ => candid_warn _

/-- A candid step returns if no call failed. -/
theorem Candid.returned {step : Step α} (candid : step.Candid) {session : Session}
    (unfailed : (session.run step).2.host.failures = session.host.failures) :
    ∃ value after, session.run step = (.ok value, after) := by
  obtain returned | ⟨error, after, ran⟩ := session.returns_or_stops step
  · exact returned
  · have ensures := candid session
    rw [Session.ensures_of_stopped ran] at ensures
    obtain ⟨⟨method, _, failed⟩, _⟩ := ensures
    rw [ran, failed] at unfailed
    exact absurd unfailed (List.cons_ne_self _ _)

end Step

end TenantGuard
