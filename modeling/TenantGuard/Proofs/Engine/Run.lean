import TenantGuard.Engine.Step
import TenantGuard.Proofs.Store.Reachable

/-!
# Running steps

A step is described by what it ensures: one condition on the value it returns and
the session it leaves, and one on the session it leaves when it stops.  The rules
below follow the way steps are put together, down to single calls.  A call is
either answered by the store, or it fails and leaves the store as it was; only then
does the host write it down as a failure.
-/

namespace TenantGuard

variable {α β : Type}

namespace Host

/-- Some call of the method may be lost. -/
def Loses (host : Host) (method : Method) : Prop :=
  ∃ journal error, host.schedule journal method = some error

/-- Something may keep a call of the engine from being carried out: it is lost, or
the store refuses to write. -/
def Hindered (host : Host) : Prop :=
  (∃ method, host.Loses method) ∨ host.store.rejectedWrites ≠ []

/-- A search lists the ids it found in some order, each as often as it was found. -/
def Orderly (host : Host) : Prop :=
  ∀ ids, (host.arrange ids).Perm ids

/-- The host goes on losing the same calls, and arranging ids in the same way, and
its store stays in the same setting and in good order. -/
structure Continues (before after : Host) : Prop where
  schedule : after.schedule = before.schedule
  arrange : after.arrange = before.arrange
  setting : before.store.SameSetting after.store
  wellFormed : before.store.WellFormed → after.store.WellFormed

/-- A host loses no call unless it is told to. -/
theorem reliable_of_default (store : Store) (method : Method) : ¬ Host.Loses { store } method := by
  rintro ⟨journal, error, lost⟩
  cases lost

/-- Nothing hinders a host that loses no call and whose store refuses none. -/
theorem unhindered_of_accepting {store : Store} (accepting : store.rejectedWrites = []) :
    ¬ Host.Hindered { store } := by
  rintro (⟨method, lost⟩ | refuses)
  · exact reliable_of_default store method lost
  · exact refuses accepting

/-- Why work on the host stops with an error: a call was lost, or the store refused one for
a cause that is known. -/
def Obstructs (host : Host) (refuses : StoreError → Prop) (error : EngineError) : Prop :=
  (∃ method, host.Loses method) ∨ ∃ cause, error = .store cause ∧ refuses cause

/-- Searches list ids as they are unless the host arranges them. -/
theorem orderly_of_default (store : Store) : Host.Orderly { store } :=
  fun _ => .refl _

theorem Loses.hindered {host : Host} {method : Method} (lost : host.Loses method) :
    host.Hindered :=
  .inl ⟨method, lost⟩

theorem Loses.obstructs {host : Host} {method : Method} (lost : host.Loses method)
    {refuses : StoreError → Prop} {error : EngineError} : host.Obstructs refuses error :=
  .inl ⟨method, lost⟩

theorem Obstructs.imp {host : Host} {refuses refusesToo : StoreError → Prop} {error : EngineError}
    (obstructs : host.Obstructs refuses error)
    (weaker : ∀ cause, refuses cause → refusesToo cause) : host.Obstructs refusesToo error :=
  Or.imp_right (fun ⟨cause, stopped, refused⟩ => ⟨cause, stopped, weaker cause refused⟩) obstructs

/-- Only a host that is hindered obstructs, if the store refuses nothing but writes. -/
theorem Obstructs.hindered {host : Host} {refuses : StoreError → Prop} {error : EngineError}
    (obstructs : host.Obstructs refuses error)
    (rejects : ∀ cause, refuses cause → host.store.rejectedWrites ≠ []) : host.Hindered := by
  rcases obstructs with lost | ⟨cause, _, refused⟩
  · exact .inl lost
  · exact .inr (rejects cause refused)

variable {before between after : Host}

theorem Continues.refl (host : Host) : host.Continues host :=
  ⟨rfl, rfl, .refl _, id⟩

theorem Continues.trans (first : before.Continues between) (second : between.Continues after) :
    before.Continues after where
  schedule := second.schedule.trans first.schedule
  arrange := second.arrange.trans first.arrange
  setting := first.setting.trans second.setting
  wellFormed := fun formed => second.wellFormed (first.wellFormed formed)

theorem Continues.orderly (continues : before.Continues after) (orderly : before.Orderly) :
    after.Orderly := by
  rw [Orderly, continues.arrange]
  exact orderly

theorem Continues.loses (continues : before.Continues after) {method : Method}
    (loses : after.Loses method) : before.Loses method := by
  rw [Loses, continues.schedule] at loses
  exact loses

theorem Continues.obstructs (continues : before.Continues after)
    {refuses : StoreError → Prop} {error : EngineError}
    (obstructs : after.Obstructs refuses error) : before.Obstructs refuses error :=
  Or.imp_left (fun ⟨method, lost⟩ => ⟨method, continues.loses lost⟩) obstructs

theorem Continues.hindered (continues : before.Continues after) (hindered : after.Hindered) :
    before.Hindered := by
  rcases hindered with ⟨method, loses⟩ | refuses
  · exact .inl ⟨method, continues.loses loses⟩
  · rw [continues.setting.rejectedWrites] at refuses
    exact .inr refuses

end Host

namespace Session

/-- What a step comes to, and the session it leaves. -/
def run (session : Session) (step : Step α) : Except EngineError α × Session :=
  StateT.run (ExceptT.run step) session

/-- What an action comes to, and the session it leaves. -/
def act (session : Session) (action : Action α) : α × Session :=
  StateT.run action session

/-- Running a step returns a value that meets the first condition, or stops and
meets the second. -/
def Ensures (session : Session) (step : Step α) (returns : α → Session → Prop)
    (stops : EngineError → Session → Prop) : Prop :=
  match session.run step with
  | (.ok value, after) => returns value after
  | (.error error, after) => stops error after

/-- A step returns or stops. -/
theorem returns_or_stops (session : Session) (step : Step α) :
    (∃ value after, session.run step = (.ok value, after)) ∨
      ∃ error after, session.run step = (.error error, after) := by
  cases ran : session.run step with
  | mk result after =>
      cases result with
      | ok value => exact .inl ⟨value, after, rfl⟩
      | error error => exact .inr ⟨error, after, rfl⟩

theorem ensures_of_returned {session after : Session} {step : Step α} {value : α}
    {returns : α → Session → Prop} {stops : EngineError → Session → Prop}
    (ran : session.run step = (.ok value, after)) :
    session.Ensures step returns stops ↔ returns value after := by
  rw [Ensures, ran]

theorem ensures_of_stopped {session after : Session} {step : Step α} {error : EngineError}
    {returns : α → Session → Prop} {stops : EngineError → Session → Prop}
    (ran : session.run step = (.error error, after)) :
    session.Ensures step returns stops ↔ stops error after := by
  rw [Ensures, ran]

instance {session : Session} {step : Step α} {returns : α → Session → Prop}
    {stops : EngineError → Session → Prop} [∀ value after, Decidable (returns value after)]
    [∀ error after, Decidable (stops error after)] :
    Decidable (session.Ensures step returns stops) :=
  match ran : session.run step with
  | (.ok _, _) => decidable_of_iff _ (ensures_of_returned ran).symm
  | (.error _, _) => decidable_of_iff _ (ensures_of_stopped ran).symm

/-- What a step ensures in both cases holds of the session it leaves. -/
theorem ensures_either_iff {session : Session} {step : Step α} {left : Session → Prop} :
    session.Ensures step (fun _ => left) (fun _ => left) ↔ left (session.run step).2 := by
  obtain ⟨value, after, ran⟩ | ⟨error, after, ran⟩ := session.returns_or_stops step
  · rw [ensures_of_returned ran, ran]
  · rw [ensures_of_stopped ran, ran]

/-- Carrying out an action meets the condition. -/
def Yields (session : Session) (action : Action α) (returns : α → Session → Prop) : Prop :=
  returns (session.act action).1 (session.act action).2

/-- The store answers a call. -/
structure Answered (session : Session) (request : Call α) (answer : α) (after : Session) :
    Prop where
  stored : ∃ raw, request.run session.host.store = (.ok raw, after.host.store) ∧
    answer = session.host.arranged request raw
  failures : after.host.failures = session.host.failures
  continues : session.host.Continues after.host

theorem Answered.store {session after : Session} {request : Call α} {answer : α}
    (answered : session.Answered request answer after) :
    after.host.store = (request.run session.host.store).2 := by
  obtain ⟨raw, ran, _⟩ := answered.stored
  rw [ran]

theorem Answered.eq_arranged {session after : Session} {request : Call α} {answer raw : α}
    (answered : session.Answered request answer after)
    (ran : (request.run session.host.store).1 = .ok raw) :
    answer = session.host.arranged request raw := by
  obtain ⟨other, ranAgain, equal⟩ := answered.stored
  rw [ranAgain] at ran
  cases ran
  exact equal

/-- A call is lost, or the store refuses it.  Either way the store stays as it
was. -/
structure Failed (session : Session) (request : Call α) (error : EngineError)
    (after : Session) : Prop where
  store : after.host.store = session.host.store
  reason : session.host.Loses request.method ∨
    ∃ cause, error = .store cause ∧ (request.run session.host.store).1 = .error cause
  failures : after.host.failures = request.method :: session.host.failures
  continues : session.host.Continues after.host

/-- A call that the store would answer fails only if it is lost. -/
theorem Failed.loses {session after : Session} {request : Call α} {error : EngineError} {raw : α}
    (failed : session.Failed request error after)
    (answers : (request.run session.host.store).1 = .ok raw) :
    session.host.Loses request.method := by
  rcases failed.reason with lost | ⟨cause, _, refused⟩
  · exact lost
  · rw [answers] at refused
    cases refused

/-- A call fails because it is lost or for a cause that the store has. -/
theorem Failed.obstructs {session after : Session} {request : Call α} {error : EngineError}
    (failed : session.Failed request error after) {refuses : StoreError → Prop}
    (refused : ∀ cause, (request.run session.host.store).1 = .error cause → refuses cause) :
    session.host.Obstructs refuses error :=
  failed.reason.imp (fun lost => ⟨request.method, lost⟩)
    fun ⟨cause, stopped, answer⟩ => ⟨cause, stopped, refused cause answer⟩

/-- A chain goes on from the session that its first step leaves. -/
theorem run_bind (session : Session) (first : Step β) (next : β → Step α) :
    session.run (first >>= next) =
      match session.run first with
      | (.ok value, after) => after.run (next value)
      | (.error error, after) => (.error error, after) := by
  unfold run ExceptT.run StateT.run
  simp only [bind, ExceptT.bind, ExceptT.mk, StateT.bind, ExceptT.bindCont]
  cases first session with
  | mk result after =>
      cases result with
      | ok value => rfl
      | error error => rfl

theorem run_call (session : Session) (request : Call α) :
    session.run (Step.call request) =
      ((session.host.perform request).1.mapError .store,
        { session with host := (session.host.perform request).2 }) :=
  rfl

section Rules

variable {session : Session} {returns : α → Session → Prop} {stops : EngineError → Session → Prop}

theorem ensures_pure {value : α} (returned : returns value session) :
    session.Ensures (pure value) returns stops :=
  returned

theorem ensures_throw {error : EngineError} (stopped : stops error session) :
    session.Ensures (throw error) returns stops :=
  stopped

theorem ensures_bind {first : Step β} {next : β → Step α}
    (chained : session.Ensures first (fun value after => after.Ensures (next value) returns stops)
      stops) :
    session.Ensures (first >>= next) returns stops := by
  rw [Ensures, run_bind]
  obtain ⟨value, after, ran⟩ | ⟨error, after, ran⟩ := session.returns_or_stops first
  · rw [ensures_of_returned ran] at chained
    rw [ran]
    exact chained
  · rw [ensures_of_stopped ran] at chained
    rw [ran]
    exact chained

theorem ensures_lift {action : Action α} (yields : session.Yields action returns) :
    session.Ensures (liftM action) returns stops :=
  yields

theorem Ensures.imp {step : Step α} {returns' : α → Session → Prop}
    {stops' : EngineError → Session → Prop} (ensures : session.Ensures step returns stops)
    (whenReturned : ∀ value after, returns value after → returns' value after)
    (whenStopped : ∀ error after, stops error after → stops' error after) :
    session.Ensures step returns' stops' := by
  obtain ⟨value, after, ran⟩ | ⟨error, after, ran⟩ := session.returns_or_stops step
  · rw [ensures_of_returned ran] at ensures ⊢
    exact whenReturned value after ensures
  · rw [ensures_of_stopped ran] at ensures ⊢
    exact whenStopped error after ensures

/-- A step that cannot stop returns. -/
theorem Ensures.returned {step : Step α} (ensures : session.Ensures step returns stops)
    (goesOn : ∀ error after, ¬ stops error after) :
    ∃ value after, session.run step = (.ok value, after) ∧ returns value after := by
  obtain ⟨value, after, ran⟩ | ⟨error, after, ran⟩ := session.returns_or_stops step
  · rw [ensures_of_returned ran] at ensures
    exact ⟨value, after, ran, ensures⟩
  · rw [ensures_of_stopped ran] at ensures
    exact absurd ensures (goesOn error after)

theorem yields_pure {value : α} (returned : returns value session) :
    session.Yields (pure value) returns :=
  returned

theorem yields_bind {first : Action β} {next : β → Action α}
    (chained : session.Yields first fun value after => after.Yields (next value) returns) :
    session.Yields (first >>= next) returns :=
  chained

theorem Yields.imp {action : Action α} {returns' : α → Session → Prop}
    (yields : session.Yields action returns)
    (weaker : ∀ value after, returns value after → returns' value after) :
    session.Yields action returns' :=
  weaker _ _ yields

/-- An attempted step goes on in both cases. -/
theorem yields_attempt {step : Step β} {returns : Except EngineError β → Session → Prop}
    (ensures : session.Ensures step (fun value => returns (.ok value))
      (fun error => returns (.error error))) :
    session.Yields (Action.attempt step) returns := by
  change returns (session.run step).1 (session.run step).2
  obtain ⟨value, after, ran⟩ | ⟨error, after, ran⟩ := session.returns_or_stops step
  · rw [ensures_of_returned ran] at ensures
    rw [ran]
    exact ensures
  · rw [ensures_of_stopped ran] at ensures
    rw [ran]
    exact ensures

theorem ensures_attempt {step : Step β} {returns : Except EngineError β → Session → Prop}
    (ensures : session.Ensures step (fun value => returns (.ok value))
      (fun error => returns (.error error))) :
    session.Ensures step.attempt returns stops :=
  ensures_lift (yields_attempt ensures)

/-- Events reach neither the store nor its host. -/
theorem yields_record {event : AuditEvent} {returns : Unit → Session → Prop}
    (returned : ∀ after : Session, after.host = session.host → returns () after) :
    session.Yields (Action.record event) returns :=
  returned { session with trail := session.trail ++ [event] } rfl

theorem yields_warn {event : LogEvent} {returns : Unit → Session → Prop}
    (returned : ∀ after : Session, after.host = session.host → returns () after) :
    session.Yields (Action.warn event) returns :=
  returned { session with log := session.log ++ [event] } rfl

/-- What comes after an event goes on with the same host. -/
theorem ensures_bind_record {event : AuditEvent} {next : Unit → Step α}
    (chained : ∀ after : Session, after.host = session.host →
      after.Ensures (next ()) returns stops) :
    session.Ensures (liftM (Action.record event) >>= next) returns stops := by
  apply ensures_bind
  apply ensures_lift
  exact yields_record chained

theorem ensures_bind_warn {event : LogEvent} {next : Unit → Step α}
    (chained : ∀ after : Session, after.host = session.host →
      after.Ensures (next ()) returns stops) :
    session.Ensures (liftM (Action.warn event) >>= next) returns stops := by
  apply ensures_bind
  apply ensures_lift
  exact yields_warn chained

theorem yields_bind_warn {event : LogEvent} {next : Unit → Action α}
    (chained : ∀ after : Session, after.host = session.host →
      after.Yields (next ()) returns) :
    session.Yields (Action.warn event >>= next) returns := by
  apply yields_bind
  exact yields_warn chained

/-- A call is answered, or it fails. -/
theorem ensures_call {request : Call α}
    (answered : ∀ answer after, session.Answered request answer after → returns answer after)
    (failed : ∀ error after, session.Failed request error after → stops error after) :
    session.Ensures (Step.call request) returns stops := by
  rw [Ensures, run_call, Host.perform]
  cases lost : session.host.schedule session.host.journal request.method with
  | some error =>
      apply failed
      exact ⟨rfl, .inl ⟨_, _, lost⟩, rfl, rfl, rfl, .refl _, id⟩
  | none =>
      have setting := request.run_sameSetting session.host.store
      have wellFormed : session.host.store.WellFormed →
          (request.run session.host.store).2.WellFormed := fun formed => formed.call request
      have unchanged : ∀ cause, (request.run session.host.store).1 = .error cause →
          (request.run session.host.store).2 = session.host.store :=
        fun _ => request.run_eq_of_error session.host.store
      revert setting wellFormed unchanged
      cases ran : request.run session.host.store with
      | mk result store =>
          intro setting wellFormed unchanged
          cases result with
          | ok raw =>
              apply answered
              exact ⟨⟨raw, ran, rfl⟩, rfl, rfl, rfl, setting, wellFormed⟩
          | error cause =>
              apply failed
              refine ⟨unchanged cause rfl, .inr ⟨cause, rfl, ?_⟩, rfl, rfl, rfl, setting,
                wellFormed⟩
              rw [ran]

/-- A call that the store would answer fails exactly if it is lost. -/
theorem ensures_call_answered {request : Call α} {raw : α} {store : Store}
    (answers : request.run session.host.store = (.ok raw, store)) :
    session.Ensures (Step.call request)
      (fun _ after => session.host.schedule session.host.journal request.method = none ∧
        after.host.store = store)
      (fun _ after => session.host.schedule session.host.journal request.method ≠ none ∧
        after.host.store = session.host.store) := by
  rw [Ensures, run_call, Host.perform]
  cases lost : session.host.schedule session.host.journal request.method with
  | some error => exact ⟨Option.some_ne_none error, rfl⟩
  | none =>
      rw [answers]
      exact ⟨rfl, rfl⟩

end Rules

end Session

end TenantGuard
