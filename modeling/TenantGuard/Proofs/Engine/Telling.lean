import TenantGuard.Proofs.Engine.Run

/-!
# What steps tell

The engine only ever adds to the audit trail.  What a step tells is therefore a condition on
the events that it adds, whatever the trail held before and whatever becomes of the store.
Some of it holds of every single event, so also when the step stops; the rest relates the
events to the value that the step returns.

The rules follow the way steps are put together, as those for what steps ensure do.  Calls
add no events, so that most of the work is silent.
-/

namespace TenantGuard

variable {α β : Type}

/-- The events have been added to the trail, and this holds of each of them. -/
structure Session.Adds (session : Session) (each : AuditEvent → Prop) (events : List AuditEvent)
    (after : Session) : Prop where
  trail : after.trail = session.trail ++ events
  each : ∀ event ∈ events, each event

namespace Session.Adds

variable {session between after : Session} {each each' : AuditEvent → Prop}
  {earlier later : List AuditEvent}

theorem nothing (same : after.trail = session.trail) : session.Adds each [] after where
  trail := by rw [same, List.append_nil]
  each := by simp

theorem trans (first : session.Adds each earlier between)
    (second : between.Adds each later after) : session.Adds each (earlier ++ later) after where
  trail := by rw [second.trail, first.trail, List.append_assoc]
  each := by
    rw [List.forall_mem_append]
    exact ⟨first.each, second.each⟩

theorem imp (adds : session.Adds each earlier after) (weaker : ∀ event, each event → each' event) :
    session.Adds each' earlier after :=
  ⟨adds.trail, fun event added => weaker event (adds.each event added)⟩

end Session.Adds

/-- Every run of the action adds events of this kind, which tell of its value. -/
def Action.Tells (each : AuditEvent → Prop) (action : Action α)
    (tells : α → List AuditEvent → Prop) : Prop :=
  ∀ session : Session, session.Yields action fun value after =>
    ∃ events, session.Adds each events after ∧ tells value events

/-- Every run of the step adds events of this kind.  If it returns, they tell of its value. -/
def Step.Tells (each : AuditEvent → Prop) (step : Step α) (tells : α → List AuditEvent → Prop) :
    Prop :=
  ∀ session : Session, session.Ensures step
    (fun value after => ∃ events, session.Adds each events after ∧ tells value events)
    (fun _ after => ∃ events, session.Adds each events after)

section Rules

variable {each each' : AuditEvent → Prop} {tells tells' : α → List AuditEvent → Prop}
  {toldFirst : β → List AuditEvent → Prop}

theorem Action.tells_pure {value : α} (told : tells value []) :
    Action.Tells each (pure value) tells :=
  fun _ => ⟨[], .nothing rfl, told⟩

theorem Action.tells_bind {first : Action β} {next : β → Action α}
    (firstTells : first.Tells each toldFirst)
    (nextTells : ∀ value earlier, toldFirst value earlier →
      (next value).Tells each fun result later => tells result (earlier ++ later)) :
    Action.Tells each (first >>= next) tells := by
  intro session
  apply Session.yields_bind
  apply (firstTells session).imp
  rintro value between ⟨earlier, adds, told⟩
  apply (nextTells value earlier told between).imp
  rintro result after ⟨later, addsLater, tellsOf⟩
  exact ⟨earlier ++ later, adds.trans addsLater, tellsOf⟩

/-- What holds of each event is part of what the events tell. -/
theorem Action.Tells.imp {action : Action α} (told : action.Tells each tells)
    (kind : ∀ event, each event → each' event)
    (weaker : ∀ value events, (∀ event ∈ events, each event) → tells value events →
      tells' value events) : action.Tells each' tells' := by
  intro session
  apply (told session).imp
  rintro value after ⟨events, adds, tellsOf⟩
  exact ⟨events, adds.imp kind, weaker value events adds.each tellsOf⟩

theorem Action.tells_record {event : AuditEvent} (ofKind : each event) :
    (Action.record event).Tells each fun _ events => events = [event] :=
  fun _ => ⟨[event], ⟨rfl, by simpa using ofKind⟩, rfl⟩

theorem Action.tells_warn (event : LogEvent) :
    (Action.warn event).Tells each fun _ events => events = [] :=
  fun _ => ⟨[], .nothing rfl, rfl⟩

/-- After a first action that adds no events, only the rest has something to tell. -/
theorem Action.tells_bind_silent {first : Action β} {next : β → Action α}
    (silent : first.Tells each fun _ events => events = [])
    (nextTells : ∀ value, (next value).Tells each tells) :
    Action.Tells each (first >>= next) tells := by
  apply Action.tells_bind silent
  rintro value _ rfl
  exact nextTells value

theorem Step.tells_pure {value : α} (told : tells value []) : Step.Tells each (pure value) tells :=
  fun _ => Session.ensures_pure ⟨[], .nothing rfl, told⟩

theorem Step.tells_throw (error : EngineError) : Step.Tells each (throw error) tells :=
  fun _ => Session.ensures_throw ⟨[], .nothing rfl⟩

theorem Step.tells_bind {first : Step β} {next : β → Step α}
    (firstTells : first.Tells each toldFirst)
    (nextTells : ∀ value earlier, toldFirst value earlier →
      (next value).Tells each fun result later => tells result (earlier ++ later)) :
    Step.Tells each (first >>= next) tells := by
  intro session
  apply Session.ensures_bind
  apply (firstTells session).imp
  · rintro value between ⟨earlier, adds, told⟩
    apply (nextTells value earlier told between).imp
    · rintro result after ⟨later, addsLater, tellsOf⟩
      exact ⟨earlier ++ later, adds.trans addsLater, tellsOf⟩
    · rintro _ after ⟨later, addsLater⟩
      exact ⟨earlier ++ later, adds.trans addsLater⟩
  · intro _ after stopped
    exact stopped

theorem Step.tells_bind_silent {first : Step β} {next : β → Step α}
    (silent : first.Tells each fun _ events => events = [])
    (nextTells : ∀ value, (next value).Tells each tells) :
    Step.Tells each (first >>= next) tells := by
  apply Step.tells_bind silent
  rintro value _ rfl
  exact nextTells value

/-- Calls leave the trail alone, and so does their failure. -/
theorem Step.tells_call (request : Call α) :
    (Step.call request).Tells each fun _ events => events = [] := by
  intro session
  rw [Session.Ensures, Session.run_call]
  cases (session.host.perform request).1 with
  | ok answer => exact ⟨[], .nothing rfl, rfl⟩
  | error cause => exact ⟨[], .nothing rfl⟩

theorem Step.tells_lift {action : Action α} (told : action.Tells each tells) :
    Step.Tells each (liftM action) tells :=
  fun session => Session.ensures_lift (told session)

theorem Step.tells_warn (event : LogEvent) :
    Step.Tells each (liftM (Action.warn event)) fun _ events => events = [] :=
  Step.tells_lift (Action.tells_warn event)

/-- What follows an event is told after it. -/
theorem Step.tells_bind_record {event : AuditEvent} {next : Unit → Step α} (ofKind : each event)
    (nextTells : (next ()).Tells each fun result later => tells result (event :: later)) :
    Step.Tells each (liftM (Action.record event) >>= next) tells := by
  apply Step.tells_bind (Step.tells_lift (Action.tells_record ofKind))
  rintro _ _ rfl
  exact nextTells

theorem Action.tells_attempt {step : Step α} (told : step.Tells each tells) :
    (Action.attempt step).Tells each fun result events =>
      ∀ value, result = .ok value → tells value events := by
  intro session
  apply Session.yields_attempt
  apply (told session).imp
  · rintro value after ⟨events, adds, tellsOf⟩
    refine ⟨events, adds, ?_⟩
    rintro _ ⟨⟩
    exact tellsOf
  · rintro error after ⟨events, adds⟩
    refine ⟨events, adds, ?_⟩
    rintro _ ⟨⟩

theorem Step.tells_attempt {step : Step α} (told : step.Tells each tells) :
    step.attempt.Tells each fun result events =>
      ∀ value, result = .ok value → tells value events :=
  Step.tells_lift (Action.tells_attempt told)

theorem Action.tells_attempt_call (request : Call α) :
    (Action.attempt (Step.call request)).Tells each fun _ events => events = [] := by
  intro session
  apply Session.yields_attempt
  rw [Session.Ensures, Session.run_call]
  cases (session.host.perform request).1 with
  | ok answer => exact ⟨[], .nothing rfl, rfl⟩
  | error cause => exact ⟨[], .nothing rfl, rfl⟩

theorem Step.tells_attempt_call (request : Call α) :
    (Step.call request).attempt.Tells each fun _ events => events = [] :=
  Step.tells_lift (Action.tells_attempt_call request)

/-- What is told of the state of a fold in the beginning is told in the end, if each step keeps
to it. -/
theorem Step.tells_foldlM {work : β → α → Step β} {inputs : List α} {start : β}
    (keeps : ∀ reached input earlier, toldFirst reached earlier →
      (work reached input).Tells each fun result later => toldFirst result (earlier ++ later))
    (started : toldFirst start []) : Step.Tells each (inputs.foldlM work start) toldFirst := by
  have after : ∀ earlier, toldFirst start earlier →
      Step.Tells each (inputs.foldlM work start) fun result later =>
        toldFirst result (earlier ++ later) := by
    clear started
    induction inputs generalizing start with
    | nil =>
        intro earlier started
        apply Step.tells_pure
        rw [List.append_nil]
        exact started
    | cons input inputs ih =>
        intro earlier started
        rw [List.foldlM_cons]
        apply Step.tells_bind (keeps start input earlier started)
        intro reached between goesOn
        simp only [← List.append_assoc]
        exact ih (earlier ++ between) goesOn
  exact after [] started

end Rules

end TenantGuard
