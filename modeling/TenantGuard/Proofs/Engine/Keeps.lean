import TenantGuard.Proofs.Engine.Composition
import TenantGuard.Proofs.Engine.Run

/-!
# What steps keep

A relation between hosts that holds across every call holds across every step that
is put together from calls, whether the step stops or not.
-/

namespace TenantGuard

variable {α β : Type}

/-- A relation between hosts that holds across every call, and so across any
number of them. -/
structure Host.Kept (related : Host → Host → Prop) : Prop where
  refl : ∀ host, related host host
  trans : ∀ {before between after}, related before between → related between after →
    related before after
  perform : ∀ (host : Host) {α : Type} (request : Call α), related host (host.perform request).2

/-- Every run of the action is related in this way. -/
def Action.Keeps (related : Host → Host → Prop) (action : Action α) : Prop :=
  ∀ session : Session, related session.host (session.act action).2.host

/-- Every run of the step is related in this way, whether it stops or not. -/
def Step.Keeps (related : Host → Host → Prop) (step : Step α) : Prop :=
  ∀ session : Session, related session.host (session.run step).2.host

section Keeps

variable {related : Host → Host → Prop} (kept : Host.Kept related)

include kept

/-- What is kept across calls is kept by all actions of the engine. -/
theorem Action.keeps_composed : Action.Composed fun _ action => action.Keeps related where
  pure := fun _ session => kept.refl session.host
  bind := fun firstKeeps nextKeeps session => kept.trans (firstKeeps session) (nextKeeps _ _)
  call := fun request session => kept.perform session.host request
  record := fun _ session => kept.refl session.host
  warn := fun _ session => kept.refl session.host

theorem Action.keeps_warn (event : LogEvent) : (Action.warn event).Keeps related :=
  fun session => kept.refl session.host

theorem Step.keeps_call (request : Call α) : (Step.call request).Keeps related :=
  (Action.keeps_composed kept).call request

/-- What is kept is kept by all the work on desired records. -/
theorem Step.keeps_compositional : Step.Compositional fun _ step => step.Keeps related :=
  (Action.keeps_composed kept).compositional

namespace Reconcile

theorem keeps_entity (policy : Policy) (entityType : EntityType) (group : Option RecordId) :
    (entity policy entityType group).Keeps related :=
  acts_entity (Action.keeps_composed kept) policy entityType group

theorem keeps_managerGroup (policy : Policy) : (managerGroup policy).Keeps related :=
  acts_managerGroup (Action.keeps_composed kept) policy fun _ => Action.keeps_warn kept _

theorem keeps_all (policy : Policy) : (all policy).Keeps related :=
  acts_all (Action.keeps_composed kept) policy fun _ => Action.keeps_warn kept _

end Reconcile

namespace Backfill

theorem keeps_table (settings : BackfillSettings) (report : BackfillReport) (name : String) :
    (table settings report name).Keeps related :=
  acts_table (Action.keeps_composed kept) settings report name

theorem keeps_all (settings : BackfillSettings) : (all settings).Keeps related :=
  acts_all (Action.keeps_composed kept) settings

end Backfill

theorem Secure.keeps_reconcile (policy : Policy) : (reconcile policy).Keeps related :=
  acts_reconcile (Action.keeps_composed kept) policy fun _ => Action.keeps_warn kept _

theorem keeps_secure (policy : Policy) : (secure policy).Keeps related :=
  acts_secure (Action.keeps_composed kept) policy fun _ => Action.keeps_warn kept _

end Keeps

/-- What a step ensures can be taken together with what it keeps. -/
theorem Session.Ensures.and_keeps {session : Session} {step : Step α}
    {returns : α → Session → Prop} {stops : EngineError → Session → Prop}
    {related : Host → Host → Prop} (ensures : session.Ensures step returns stops)
    (keeps : step.Keeps related) :
    session.Ensures step (fun value after => returns value after ∧ related session.host after.host)
      (fun error after => stops error after ∧ related session.host after.host) := by
  have holds := keeps session
  obtain ⟨value, after, ran⟩ | ⟨error, after, ran⟩ := session.returns_or_stops step
  · rw [Session.ensures_of_returned ran] at ensures ⊢
    rw [ran] at holds
    exact ⟨ensures, holds⟩
  · rw [Session.ensures_of_stopped ran] at ensures ⊢
    rw [ran] at holds
    exact ⟨ensures, holds⟩

theorem Session.Yields.and_keeps {session : Session} {action : Action α}
    {returns : α → Session → Prop} {related : Host → Host → Prop}
    (yields : session.Yields action returns) (keeps : action.Keeps related) :
    session.Yields action fun value after =>
      returns value after ∧ related session.host after.host :=
  ⟨yields, keeps session⟩

/-- Hosts go on as they are across every call. -/
theorem Host.Continues.kept : Host.Kept Host.Continues where
  refl := .refl
  trans := .trans
  perform := by
    intro host α request
    have setting := request.run_sameSetting host.store
    have wellFormed : host.store.WellFormed → (request.run host.store).2.WellFormed :=
      fun formed => formed.call request
    rw [Host.perform]
    split
    · exact ⟨rfl, rfl, .refl _, id⟩
    · revert setting wellFormed
      rcases request.run host.store with ⟨answer | cause, store⟩
      · intro setting wellFormed
        exact ⟨rfl, rfl, setting, wellFormed⟩
      · intro setting wellFormed
        exact ⟨rfl, rfl, setting, wellFormed⟩

end TenantGuard
