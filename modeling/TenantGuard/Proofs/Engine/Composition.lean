import TenantGuard.Engine.Secure

/-!
# How the engine is put together

The work on a desired record consists of calls that work on records, of events about
them, and of chains of these.  What holds of such calls and events, and of a chain
whenever it holds of its links, therefore holds of all the work.

Around that work the engine opens and closes savepoints and goes on where a step stopped.
What holds of every call and every event, and of all ways to put them together, holds of a
whole run.  One event is left out, that of a manager group that is not written as a
reference, since it depends on the configuration alone.
-/

namespace TenantGuard

/-- Whether the method works on records or on their external identifiers. -/
def Method.worksOnRecords : Method → Bool
  | .search | .read | .create | .write | .unlink | .findExternalId | .createExternalId => true
  | .entityTypes | .resolveGroup | .savepoint | .releaseSavepoint | .rollbackToSavepoint
  | .tablesWithColumn | .fillNullColumn => false

/-- Whether the event is about records or their external identifiers. -/
def LogEvent.isAboutRecords : LogEvent → Bool
  | .conflictingDuplicates | .identifierCollision => true
  | .malformedGroupReference | .managerGroupMissing | .ruleCompilationFailed
  | .storeOperationFailed | .entityRolledBack | .unusualTableSkipped | .tableBackfillFailed
  | .reconciliationAborted | .backfillFailed | .rollbackFailed | .securedWithProblems => false

/-- A property of steps that calls on records and events have, and that chains have if
their links do. -/
structure Step.Compositional (holds : (α : Type) → Step α → Prop) : Prop where
  pure : ∀ {α : Type} (value : α), holds α (pure value)
  bind : ∀ {α β : Type} {first : Step β} {next : β → Step α}, holds β first →
    (∀ value, holds α (next value)) → holds α (first >>= next)
  call : ∀ {α : Type} {request : Call α}, request.method.worksOnRecords →
    holds α (Step.call request)
  record : ∀ event : AuditEvent, holds Unit (liftM (Action.record event))
  warn : ∀ {event : LogEvent}, event.isAboutRecords → holds Unit (liftM (Action.warn event))

section

variable {holds : (α : Type) → Step α → Prop} (rules : Step.Compositional holds)

include rules

theorem Step.Compositional.mapM {α β : Type} {work : α → Step β} {inputs : List α}
    (each : ∀ input, holds β (work input)) : holds (List β) (inputs.mapM work) := by
  induction inputs with
  | nil => exact rules.pure []
  | cons input inputs ih =>
      rw [List.mapM_cons]
      apply rules.bind (each input)
      intro result
      apply rules.bind ih
      intro results
      exact rules.pure _

namespace Reconcile

theorem holds_update (entity : String) (desired : DesiredRecord) (kept : RecordId)
    (current : Values) (removed : List RecordId) :
    holds _ (update entity desired kept current removed) := by
  rw [update]
  split
  · exact rules.pure _
  · apply rules.bind (rules.call rfl)
    intro _
    apply rules.bind (rules.record _)
    intro _
    exact rules.pure _

theorem holds_deduplicate (entity : String) (desired : DesiredRecord) (kept : RecordId)
    (copies : List RecordId) (rows : List Values) :
    holds _ (deduplicate entity desired kept copies rows) := by
  rw [deduplicate]
  split
  · exact rules.pure _
  · split
    · apply rules.bind (rules.call rfl)
      intro _
      apply rules.bind (rules.record _)
      intro _
      exact rules.pure _
    · apply rules.bind (rules.warn rfl)
      intro _
      apply rules.bind (rules.record _)
      intro _
      exact rules.pure _

theorem holds_record (entity : String) (desired : DesiredRecord) :
    holds _ (record entity desired) := by
  rw [record]
  apply rules.bind (rules.call rfl)
  intro found
  split
  · apply rules.bind (rules.call rfl)
    intro id
    apply rules.bind (rules.record _)
    intro _
    exact rules.pure _
  · apply rules.bind (rules.call rfl)
    intro rows
    apply rules.bind (holds_deduplicate rules entity desired _ _ _)
    intro conflict
    split
    · exact rules.pure _
    · exact holds_update rules entity desired _ _ _

theorem holds_register (reference : Reference) (kind : RecordKind) (id : RecordId) :
    holds _ (Registration.register reference kind id) := by
  rw [Registration.register]
  apply rules.bind (rules.call rfl)
  intro found
  split
  · apply rules.bind (rules.call rfl)
    intro _
    exact rules.pure _
  · split
    · exact rules.pure _
    · apply rules.bind (rules.warn rfl)
      intro _
      exact rules.pure _

theorem holds_identify (policy : Policy) (entity : String) (desired : DesiredRecord)
    (id : Option RecordId) : holds _ (identify policy entity desired id) := by
  cases id with
  | none => exact rules.pure _
  | some id =>
      rw [identify]
      split
      · apply rules.bind (holds_register rules _ _ _)
        intro registration
        split
        · apply rules.bind (rules.record _)
          intro _
          exact rules.pure _
        · exact rules.pure _
        · apply rules.bind (rules.record _)
          intro _
          exact rules.pure _
      · exact rules.pure _

theorem holds_one (policy : Policy) (entity : String) (desired : DesiredRecord) :
    holds _ (one policy entity desired) := by
  rw [one]
  apply rules.bind (holds_record rules entity desired)
  intro outcome
  apply rules.bind (holds_identify rules policy entity desired _)
  intro collision
  exact rules.pure _

/-- What holds of a single call and of chains holds of the work on a whole list of
desired records. -/
theorem holds_mapM_one (policy : Policy) (entity : String) (desired : List DesiredRecord) :
    holds _ (desired.mapM (one policy entity)) :=
  rules.mapM (holds_one rules policy entity)

end Reconcile

end

/-- A property of actions that all calls and events have, and that chains have if their links
do. -/
structure Action.Composed (acts : (α : Type) → Action α → Prop) : Prop where
  pure : ∀ {α : Type} (value : α), acts α (pure value)
  bind : ∀ {α β : Type} {first : Action β} {next : β → Action α}, acts β first →
    (∀ value, acts α (next value)) → acts α (first >>= next)
  call : ∀ {α : Type} (request : Call α), acts _ (Action.attempt (Step.call request))
  record : ∀ event : AuditEvent, acts Unit (Action.record event)
  warn : ∀ {event : LogEvent}, event ≠ .malformedGroupReference → acts Unit (Action.warn event)

section

variable {acts : (α : Type) → Action α → Prop} (rules : Action.Composed acts) {α β : Type}

include rules

namespace Action.Composed

/-! A step has the property if attempting it does. -/

theorem step_pure (value : α) : acts _ (Action.attempt (Pure.pure value : Step α)) :=
  rules.pure (Except.ok value)

theorem step_throw (error : EngineError) : acts _ (Action.attempt (throw error : Step α)) :=
  rules.pure (Except.error error)

theorem step_bind {first : Step β} {next : β → Step α} (firstActs : acts _ (Action.attempt first))
    (nextActs : ∀ value, acts _ (Action.attempt (next value))) :
    acts _ (Action.attempt (first >>= next)) := by
  have chained : Action.attempt (first >>= next) =
      Action.attempt first >>= ExceptT.bindCont next := rfl
  rw [chained]
  apply rules.bind firstActs
  intro result
  cases result with
  | ok value => exact nextActs value
  | error error => exact rules.pure (Except.error error)

theorem step_lift {action : Action α} (actionActs : acts _ action) :
    acts _ (Action.attempt (liftM action : Step α)) :=
  rules.bind actionActs fun value => rules.pure (Except.ok value)

theorem step_attempt {step : Step α} (stepActs : acts _ (Action.attempt step)) :
    acts _ (Action.attempt step.attempt) :=
  rules.step_lift stepActs

theorem step_foldlM {work : β → α → Step β} {inputs : List α} {start : β}
    (each : ∀ reached input, acts _ (Action.attempt (work reached input))) :
    acts _ (Action.attempt (inputs.foldlM work start)) := by
  induction inputs generalizing start with
  | nil => exact rules.step_pure start
  | cons input inputs ih =>
      rw [List.foldlM_cons]
      apply rules.step_bind (each start input)
      intro reached
      exact ih

/-- The property is one of the work on desired records too. -/
theorem compositional : Step.Compositional fun _ step => acts _ (Action.attempt step) where
  pure := rules.step_pure
  bind := rules.step_bind
  call := fun _ => rules.call _
  record := fun event => rules.step_lift (rules.record event)
  warn := by
    intro event aboutRecords
    apply rules.step_lift (rules.warn _)
    rintro rfl
    cases aboutRecords

end Action.Composed

namespace Reconcile

theorem acts_storeFailure (entity : String) (error : EngineError) :
    acts _ (storeFailure entity error) := by
  rw [storeFailure]
  apply rules.bind (rules.warn (by decide))
  intro _
  exact rules.pure _

theorem acts_closeEntity (entity : String) (call : Call Unit) :
    acts _ (closeEntity entity call) := by
  rw [closeEntity]
  apply rules.bind (rules.call _)
  intro closed
  split
  · exact rules.pure _
  · apply rules.bind (acts_storeFailure rules entity _)
    intro _
    exact rules.pure _

theorem acts_records (policy : Policy) (outcome : EntityOutcome) (desired : List DesiredRecord) :
    acts _ (records policy outcome desired) := by
  rw [records]
  apply rules.bind (rules.call _)
  intro opened
  split
  · apply rules.bind (acts_storeFailure rules _ _)
    intro _
    exact rules.pure _
  · apply rules.bind (holds_mapM_one rules.compositional policy _ _)
    intro done
    split
    · apply rules.bind (acts_closeEntity rules _ _)
      intro _
      exact rules.pure _
    · apply rules.bind (acts_storeFailure rules _ _)
      intro failure
      apply rules.bind (rules.call _)
      intro closed
      apply rules.bind (rules.warn (by decide))
      intro _
      dsimp only
      split
      · exact rules.bind (rules.pure _) fun _ => rules.pure _
      · apply rules.bind (acts_storeFailure rules _ _)
        intro closing
        exact rules.bind (rules.pure _) fun _ => rules.pure _

theorem acts_entity (policy : Policy) (entityType : EntityType) (group : Option RecordId) :
    acts _ (entity policy entityType group) := by
  have run : ∀ outcome desired, acts _ (entity.run policy outcome desired) := by
    intro outcome desired
    rw [entity.run]
    split
    · exact rules.pure _
    · exact acts_records rules policy outcome desired
  rw [entity]
  dsimp only
  split
  · exact rules.pure _
  · split
    · exact run _ _
    · apply rules.bind (rules.warn (by decide))
      intro _
      exact run _ _

section

variable (policy : Policy) (malformed : policy.config.managerReference? = none →
  acts Unit (Action.warn .malformedGroupReference))

include malformed

theorem acts_managerGroup : acts _ (Action.attempt (managerGroup policy)) := by
  rw [managerGroup]
  split
  next unreadable =>
    apply rules.step_bind (rules.step_lift (malformed unreadable))
    intro _
    exact rules.step_pure _
  next =>
    apply rules.step_bind (rules.call _)
    intro group
    dsimp only
    split
    · apply rules.step_bind (rules.step_lift (rules.warn (by decide)))
      intro _
      exact rules.step_pure _
    · exact rules.step_pure _

theorem acts_all : acts _ (Action.attempt (all policy)) := by
  rw [all]
  apply rules.step_bind (rules.call _)
  intro entities
  apply rules.step_bind (acts_managerGroup rules policy malformed)
  intro group
  apply rules.step_foldlM
  intro summary entityType
  apply rules.step_bind (rules.step_lift (acts_entity rules policy entityType group))
  intro outcome
  exact rules.step_pure _

end

end Reconcile

namespace Backfill

theorem acts_table (settings : BackfillSettings) (report : BackfillReport) (name : String) :
    acts _ (Action.attempt (table settings report name)) := by
  rw [table]
  split
  · apply rules.step_bind (rules.call _)
    intro _
    apply rules.step_bind (rules.step_attempt (rules.call _))
    intro filled
    split
    · apply rules.step_bind (rules.call _)
      intro _
      exact rules.step_pure _
    · apply rules.step_bind (rules.call _)
      intro _
      apply rules.step_bind (rules.step_lift (rules.warn (by decide)))
      intro _
      exact rules.step_pure _
  · apply rules.step_bind (rules.step_lift (rules.warn (by decide)))
    intro _
    exact rules.step_pure _

theorem acts_all (settings : BackfillSettings) : acts _ (Action.attempt (all settings)) := by
  rw [all]
  split
  · apply rules.step_bind (rules.call _)
    intro tables
    exact rules.step_foldlM (acts_table rules settings)
  · exact rules.step_throw _

end Backfill

namespace Secure

theorem acts_within (savepoint : String) {work : Step α} (workActs : acts _ (Action.attempt work)) :
    acts _ (Action.attempt (within savepoint work)) := by
  rw [within]
  apply rules.step_bind (rules.call _)
  intro _
  apply rules.step_bind (rules.step_attempt workActs)
  intro worked
  split
  · apply rules.step_bind (rules.call _)
    intro _
    exact rules.step_pure _
  · apply rules.step_bind (rules.step_attempt (rules.call _))
    intro closed
    split
    · exact rules.step_throw _
    · apply rules.step_bind (rules.step_lift (rules.warn (by decide)))
      intro _
      exact rules.step_throw _

theorem acts_reconcile (policy : Policy) (malformed : policy.config.managerReference? = none →
    acts Unit (Action.warn .malformedGroupReference)) : acts _ (reconcile policy) := by
  rw [reconcile]
  apply rules.bind (acts_within rules _ (Reconcile.acts_all rules policy malformed))
  intro result
  split
  · split
    · exact rules.pure _
    · exact rules.pure _
  · apply rules.bind (rules.warn (by decide))
    intro _
    exact rules.pure _

theorem acts_recordTables (report : BackfillReport) : acts _ (recordTables report) := by
  rw [recordTables]
  induction report.tables.filter fun filled => 0 < filled.rows with
  | nil => exact rules.pure ()
  | cons filled others ih =>
      rw [List.forM_eq_forM, List.forM_cons]
      exact rules.bind (rules.record _) fun _ => ih

theorem acts_backfill (policy : Policy) : acts _ (backfill policy) := by
  rw [backfill]
  split
  · apply rules.bind (acts_within rules _ (Backfill.acts_all rules _))
    intro result
    split
    · apply rules.bind (acts_recordTables rules _)
      intro _
      exact rules.pure _
    · apply rules.bind (rules.warn (by decide))
      intro _
      exact rules.pure _
  · exact rules.pure _

end Secure

theorem acts_secure (policy : Policy) (malformed : policy.config.managerReference? = none →
    acts Unit (Action.warn .malformedGroupReference)) : acts _ (secure policy) := by
  rw [secure]
  apply rules.bind (Secure.acts_reconcile rules policy malformed)
  rintro ⟨summary, missing⟩
  apply rules.bind (Secure.acts_backfill rules policy)
  rintro ⟨filled, failed⟩
  dsimp only
  split
  · apply rules.bind (rules.warn (by decide))
    intro _
    exact rules.pure _
  · exact rules.pure _

end

end TenantGuard
