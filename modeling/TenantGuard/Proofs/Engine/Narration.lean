import TenantGuard.Engine.Secure
import TenantGuard.Proofs.Engine.Difference
import TenantGuard.Proofs.Engine.Telling

/-!
# What the trail of a run tells

The events of an entity type name the same records as the reports in its outcome, unless a
failure of the store emptied the outcome.  The events stay in that case, too.

The events of a run are therefore those of its entity types, one after the other, and then
those of the tables that were filled.
-/

namespace TenantGuard

variable {α : Type}

namespace AuditEvent

/-- The records that the event is about. -/
def keys (event : AuditEvent) : List RecordKey :=
  match event.kind? with
  | some kind => event.ids.map fun id => (kind, id)
  | none => []

/-- The records that some events name in this way, in order. -/
def named (action : AuditAction) (events : List AuditEvent) : List RecordKey :=
  (events.filter (·.action = action)).flatMap keys

theorem named_append (action : AuditAction) (first second : List AuditEvent) :
    named action (first ++ second) = named action first ++ named action second := by
  rw [named, List.filter_append, List.flatMap_append, named, named]

theorem named_flatMap {ε : Type} (action : AuditAction) (eventsOf : ε → List AuditEvent)
    (entries : List ε) :
    named action (entries.flatMap eventsOf) =
      entries.flatMap fun entry => named action (eventsOf entry) := by
  rw [named, List.filter_flatMap, List.flatMap_assoc]
  rfl

/-- Events of another action name nothing in this way. -/
theorem named_of_ne {action other : AuditAction} (unlike : other ≠ action)
    {events : List AuditEvent} (same : ∀ event ∈ events, event.action = other) :
    named action events = [] := by
  have none : events.filter (·.action = action) = [] := by
    rw [List.filter_eq_nil_iff]
    intro event listed
    rw [same event listed, decide_eq_true_eq]
    exact unlike
  rw [named, none, List.flatMap_nil]

end AuditEvent

open AuditEvent in
/-- The events name the same records as the reports, in the same order. -/
structure Told (reports : List RecordReport) (events : List AuditEvent) : Prop where
  created : named .created events = reports.flatMap RecordReport.created
  updated : named .updated events = reports.flatMap RecordReport.updated
  removed : named .duplicatesRemoved events = reports.flatMap RecordReport.removed

namespace Told

variable {reports others : List RecordReport} {events later : List AuditEvent}

theorem nil : Told [] [] :=
  ⟨rfl, rfl, rfl⟩

theorem append (first : Told reports events) (second : Told others later) :
    Told (reports ++ others) (events ++ later) where
  created := by
    rw [AuditEvent.named_append, first.created, second.created, List.flatMap_append]
  updated := by
    rw [AuditEvent.named_append, first.updated, second.updated, List.flatMap_append]
  removed := by
    rw [AuditEvent.named_append, first.removed, second.removed, List.flatMap_append]

/-- The event of an update makes a report on an unchanged record one on an updated record. -/
theorem update {kind : RecordKind} {name : String} {kept : RecordId} {copies : List RecordId}
    (told : Told [⟨kind, name, .unchanged kept copies⟩] events) (entity : String)
    (fields : List String) :
    Told [⟨kind, name, .updated kept copies⟩]
      (events ++ [.updated entity kind kept fields]) where
  created := by
    rw [AuditEvent.named_append, told.created]
    rfl
  updated := by
    rw [AuditEvent.named_append, told.updated]
    rfl
  removed := by
    rw [AuditEvent.named_append, told.removed]
    exact List.append_nil _

end Told

/-- No call of the store failed while the entity type was reconciled. -/
def EntityOutcome.Unfailed (outcome : EntityOutcome) : Prop :=
  ∀ failure ∈ outcome.failures, failure.kind ≠ .store

instance : DecidablePred EntityOutcome.Unfailed :=
  fun outcome =>
    inferInstanceAs (Decidable (∀ failure ∈ outcome.failures, failure.kind ≠ .store))

/-- A failure of the store that is listed is one. -/
theorem EntityOutcome.not_unfailed {outcome : EntityOutcome} {failure : Failure}
    (listed : failure ∈ outcome.failures) (ofStore : failure.kind = .store) :
    ¬ outcome.Unfailed :=
  fun unfailed => unfailed failure listed ofStore

/-- The events are about the entity type, and unless it failed they name the records in its
outcome. -/
structure TellsOf (outcome : EntityOutcome) (events : List AuditEvent) : Prop where
  subject : ∀ event ∈ events, event.subject = outcome.entity
  told : outcome.Unfailed → Told outcome.records events

/-- The events of a pass come entity type by entity type. -/
def Narrated (outcomes : List EntityOutcome) (events : List AuditEvent) : Prop :=
  ∃ told : List (EntityOutcome × List AuditEvent), told.map (·.1) = outcomes ∧
    told.flatMap (·.2) = events ∧ ∀ entry ∈ told, TellsOf entry.1 entry.2

theorem Narrated.nil : Narrated [] [] :=
  ⟨[], rfl, rfl, by simp⟩

theorem Narrated.snoc {outcomes : List EntityOutcome} {earlier : List AuditEvent}
    (narrated : Narrated outcomes earlier) {outcome : EntityOutcome} {later : List AuditEvent}
    (tells : TellsOf outcome later) : Narrated (outcomes ++ [outcome]) (earlier ++ later) := by
  obtain ⟨told, rfl, rfl, each⟩ := narrated
  refine ⟨told ++ [(outcome, later)], List.map_append, ?_, ?_⟩
  · rw [List.flatMap_append, List.flatMap_singleton]
  · rw [List.forall_mem_append, List.forall_mem_singleton]
    exact ⟨each, tells⟩

namespace Reconcile

theorem update_tells (entity : String) (desired : DesiredRecord) (kept : RecordId)
    (current : Values) (removed : List RecordId) {earlier : List AuditEvent}
    (told : Told [⟨desired.kind, desired.name, .unchanged kept removed⟩] earlier) :
    (update entity desired kept current removed).Tells (·.subject = entity)
      fun outcome later => Told [⟨desired.kind, desired.name, outcome⟩] (earlier ++ later) := by
  rw [update]
  split
  · apply Step.tells_pure
    rw [List.append_nil]
    exact told
  · apply Step.tells_bind_silent (Step.tells_call _)
    intro _
    apply Step.tells_bind_record
    · rfl
    · exact Step.tells_pure (told.update entity _)

/-- Before anything is written, the record that stays is unchanged. -/
theorem deduplicate_tells (entity : String) (desired : DesiredRecord) (kept : RecordId)
    (copies : List RecordId) (rows : List Values) :
    (deduplicate entity desired kept copies rows).Tells (·.subject = entity)
      fun result events => Told
        [⟨desired.kind, desired.name, result.elim (.unchanged kept copies) .conflict⟩] events := by
  rw [deduplicate]
  split
  next alone =>
    rw [List.isEmpty_iff] at alone
    rw [alone]
    exact Step.tells_pure ⟨rfl, rfl, rfl⟩
  next =>
    dsimp only
    split
    · apply Step.tells_bind_silent (Step.tells_call _)
      intro _
      apply Step.tells_bind_record
      · rfl
      · exact Step.tells_pure ⟨rfl, rfl, rfl⟩
    · apply Step.tells_bind_silent (Step.tells_warn _)
      intro _
      apply Step.tells_bind_record
      · rfl
      · exact Step.tells_pure ⟨rfl, rfl, rfl⟩

theorem record_tells (entity : String) (desired : DesiredRecord) :
    (record entity desired).Tells (·.subject = entity)
      fun outcome events => Told [⟨desired.kind, desired.name, outcome⟩] events := by
  rw [record]
  apply Step.tells_bind_silent (Step.tells_call _)
  intro found
  split
  · apply Step.tells_bind_silent (Step.tells_call _)
    intro id
    apply Step.tells_bind_record
    · rfl
    · exact Step.tells_pure ⟨rfl, rfl, rfl⟩
  next kept copies _ =>
    apply Step.tells_bind_silent (Step.tells_call _)
    intro rows
    apply Step.tells_bind (deduplicate_tells entity desired kept copies _)
    rintro (_ | conflict) earlier told
    · exact update_tells entity desired kept _ copies told
    · apply Step.tells_pure
      rw [List.append_nil]
      exact told

/-- Registering a record under its external identifier tells nothing by itself. -/
theorem register_tells {each : AuditEvent → Prop} (reference : Reference) (kind : RecordKind)
    (id : RecordId) :
    (Registration.register reference kind id).Tells each fun _ events => events = [] := by
  rw [Registration.register]
  apply Step.tells_bind_silent (Step.tells_call _)
  intro found
  split
  · apply Step.tells_bind_silent (Step.tells_call _)
    intro _
    exact Step.tells_pure rfl
  · split
    · exact Step.tells_pure rfl
    · apply Step.tells_bind_silent (Step.tells_warn _)
      intro _
      exact Step.tells_pure rfl

/-- The events of registration are about no change to a record. -/
theorem identify_tells (policy : Policy) (entity : String) (desired : DesiredRecord)
    (id : Option RecordId) :
    (identify policy entity desired id).Tells (·.subject = entity)
      fun _ events => Told [] events := by
  cases id with
  | none => exact Step.tells_pure .nil
  | some id =>
      rw [identify]
      split
      · apply Step.tells_bind_silent (register_tells _ _ _)
        intro registration
        split
        · apply Step.tells_bind_record
          · rfl
          · exact Step.tells_pure ⟨rfl, rfl, rfl⟩
        · exact Step.tells_pure .nil
        · apply Step.tells_bind_record
          · rfl
          · exact Step.tells_pure ⟨rfl, rfl, rfl⟩
      · exact Step.tells_pure .nil

theorem one_tells (policy : Policy) (entity : String) (desired : DesiredRecord) :
    (one policy entity desired).Tells (·.subject = entity)
      fun result events => Told [result.1] events := by
  rw [one]
  apply Step.tells_bind (record_tells entity desired)
  intro outcome earlier told
  apply Step.tells_bind (identify_tells policy entity desired outcome.id?)
  intro collision later toldLater
  apply Step.tells_pure
  rw [List.append_nil]
  exact told.append toldLater

theorem mapM_one_tells (policy : Policy) (entity : String) (desired : List DesiredRecord) :
    (desired.mapM (one policy entity)).Tells (·.subject = entity)
      fun results events => Told (results.map (·.1)) events := by
  induction desired with
  | nil => exact Step.tells_pure .nil
  | cons record others ih =>
      rw [List.mapM_cons]
      apply Step.tells_bind (one_tells policy entity record)
      intro result earlier told
      apply Step.tells_bind ih
      intro results later toldLater
      apply Step.tells_pure
      rw [List.append_nil]
      exact told.append toldLater

theorem storeFailure_tells {each : AuditEvent → Prop} (entity : String) (error : EngineError) :
    (storeFailure entity error).Tells each fun failure events =>
      failure.kind = .store ∧ events = [] := by
  rw [storeFailure]
  apply Action.tells_bind_silent (Action.tells_warn _)
  intro _
  exact Action.tells_pure ⟨rfl, rfl⟩

theorem closeEntity_tells {each : AuditEvent → Prop} (entity : String) (call : Call Unit) :
    (closeEntity entity call).Tells each fun _ events => events = [] := by
  rw [closeEntity]
  apply Action.tells_bind_silent (Action.tells_attempt_call call)
  rintro (error | ⟨⟩)
  · apply Action.tells_bind (storeFailure_tells entity error)
    rintro failure _ ⟨_, rfl⟩
    exact Action.tells_pure rfl
  · exact Action.tells_pure rfl

/-- If a call failed, nothing is said of the records. -/
theorem records_tells (policy : Policy) (start : EntityOutcome) (desired : List DesiredRecord) :
    (records policy start desired).Tells (·.subject = start.entity) fun outcome events =>
      outcome.entity = start.entity ∧ (outcome.Unfailed → Told outcome.records events) := by
  rw [records]
  apply Action.tells_bind_silent (Action.tells_attempt_call _)
  rintro (error | ⟨⟩)
  · apply Action.tells_bind (storeFailure_tells start.entity error)
    rintro failure _ ⟨ofStore, rfl⟩
    apply Action.tells_pure
    refine ⟨rfl, fun unfailed => absurd unfailed ?_⟩
    exact EntityOutcome.not_unfailed (List.mem_append_right _ List.mem_cons_self) ofStore
  · apply Action.tells_bind (Action.tells_attempt (mapM_one_tells policy start.entity desired))
    rintro (error | results) earlier told
    · apply Action.tells_bind (storeFailure_tells start.entity error)
      rintro failure _ ⟨ofStore, rfl⟩
      apply Action.tells_bind_silent (Action.tells_attempt_call _)
      intro closed
      apply Action.tells_bind_silent (Action.tells_warn _)
      intro _
      have failed : ∀ closing : List Failure, ¬ EntityOutcome.Unfailed
          { start with failures := start.failures ++ failure :: closing } := fun closing =>
        EntityOutcome.not_unfailed (List.mem_append_right _ List.mem_cons_self) ofStore
      dsimp only
      split
      · exact Action.tells_pure ⟨rfl, fun unfailed => absurd unfailed (failed _)⟩
      · apply Action.tells_bind (storeFailure_tells start.entity _)
        intro closing _ _
        exact Action.tells_pure ⟨rfl, fun unfailed => absurd unfailed (failed _)⟩
    · apply Action.tells_bind_silent (closeEntity_tells start.entity _)
      intro closing
      apply Action.tells_pure
      rw [List.append_nil]
      exact ⟨rfl, fun _ => told results rfl⟩

theorem run_tells (policy : Policy) {start : EntityOutcome} (desired : List DesiredRecord)
    (noRecords : start.records = []) :
    (entity.run policy start desired).Tells (·.subject = start.entity) fun outcome events =>
      outcome.entity = start.entity ∧ (outcome.Unfailed → Told outcome.records events) := by
  rw [entity.run]
  split
  · apply Action.tells_pure
    rw [noRecords]
    exact ⟨rfl, fun _ => .nil⟩
  · exact records_tells policy start desired

theorem entity_tells (policy : Policy) (entityType : EntityType) (group : Option RecordId) :
    (entity policy entityType group).Tells (fun _ => True) TellsOf := by
  have tells : (entity policy entityType group).Tells (·.subject = entityType.name)
      fun outcome events => outcome.entity = entityType.name ∧
        (outcome.Unfailed → Told outcome.records events) := by
    rw [entity]
    dsimp only
    split
    · exact Action.tells_pure ⟨rfl, fun _ => .nil⟩
    · split
      · exact run_tells policy _ rfl
      · apply Action.tells_bind_silent (Action.tells_warn _)
        intro _
        exact run_tells policy _ rfl
  apply tells.imp fun _ _ => trivial
  rintro outcome events subject ⟨named, told⟩
  rw [← named] at subject
  exact ⟨subject, told⟩

theorem managerGroup_tells {each : AuditEvent → Prop} (policy : Policy) :
    (managerGroup policy).Tells each fun _ events => events = [] := by
  rw [managerGroup]
  split
  · apply Step.tells_bind_silent (Step.tells_warn _)
    intro _
    exact Step.tells_pure rfl
  · apply Step.tells_bind_silent (Step.tells_call _)
    intro group
    dsimp only
    split
    · apply Step.tells_bind_silent (Step.tells_warn _)
      intro _
      exact Step.tells_pure rfl
    · exact Step.tells_pure rfl

theorem all_tells (policy : Policy) :
    (all policy).Tells (fun _ => True) fun summary events => Narrated summary.outcomes events := by
  rw [all]
  apply Step.tells_bind_silent (Step.tells_call _)
  intro entities
  apply Step.tells_bind_silent (managerGroup_tells policy)
  intro group
  dsimp only
  apply Step.tells_foldlM
  · intro summary entityType earlier narrated
    apply Step.tells_bind (Step.tells_lift (entity_tells policy entityType group))
    intro outcome later tells
    apply Step.tells_pure
    have listed : (summary.absorb outcome).outcomes = summary.outcomes ++ [outcome] :=
      (Summary.foldl_absorb_rest summary [outcome]).2.2.1
    rw [List.append_nil, listed]
    exact narrated.snoc tells
  · exact .nil

end Reconcile

namespace Backfill

variable {each : AuditEvent → Prop}

theorem table_tells (settings : BackfillSettings) (report : BackfillReport) (name : String) :
    (table settings report name).Tells each fun _ events => events = [] := by
  rw [table]
  split
  · apply Step.tells_bind_silent (Step.tells_call _)
    intro _
    apply Step.tells_bind_silent (Step.tells_attempt_call _)
    intro filled
    split
    · apply Step.tells_bind_silent (Step.tells_call _)
      intro _
      exact Step.tells_pure rfl
    · apply Step.tells_bind_silent (Step.tells_call _)
      intro _
      apply Step.tells_bind_silent (Step.tells_warn _)
      intro _
      exact Step.tells_pure rfl
  · apply Step.tells_bind_silent (Step.tells_warn _)
    intro _
    exact Step.tells_pure rfl

theorem all_tells (settings : BackfillSettings) :
    (all settings).Tells each fun _ events => events = [] := by
  rw [all]
  split
  · apply Step.tells_bind_silent (Step.tells_call _)
    intro tables
    apply Step.tells_foldlM
    · rintro report name _ rfl
      exact table_tells settings report name
    · rfl
  · exact Step.tells_throw _

end Backfill

namespace Secure

/-- Opening and closing a savepoint adds nothing to what the work under it tells. -/
theorem within_tells {each : AuditEvent → Prop} {tells : α → List AuditEvent → Prop}
    {work : Step α} (told : work.Tells each tells) (name : String) :
    (within name work).Tells each tells := by
  rw [within]
  apply Step.tells_bind_silent (Step.tells_call _)
  intro _
  apply Step.tells_bind (Step.tells_attempt told)
  rintro (error | value) earlier toldEarlier
  · apply Step.tells_bind_silent (Step.tells_attempt_call _)
    rintro (_ | ⟨⟩)
    · apply Step.tells_bind_silent (Step.tells_warn _)
      intro _
      exact Step.tells_throw _
    · exact Step.tells_throw _
  · apply Step.tells_bind_silent (Step.tells_call _)
    intro _
    apply Step.tells_pure
    rw [List.append_nil]
    exact toldEarlier value rfl

theorem reconcile_tells (policy : Policy) :
    (reconcile policy).Tells (fun _ => True) fun result events =>
      ∀ summary, result.1 = some summary → Narrated summary.outcomes events := by
  rw [reconcile]
  apply Action.tells_bind (Action.tells_attempt (within_tells (Reconcile.all_tells policy) _))
  rintro (error | summary) earlier told
  · apply Action.tells_bind_silent (Action.tells_warn _)
    intro _
    apply Action.tells_pure
    rintro _ ⟨⟩
  · dsimp only
    split
    · apply Action.tells_pure
      rintro _ ⟨⟩
      rw [List.append_nil]
      exact told summary rfl
    · apply Action.tells_pure
      rintro _ ⟨⟩
      rw [List.append_nil]
      exact told summary rfl

theorem recordTables_tells (report : BackfillReport) :
    (recordTables report).Tells (·.action = .backfilled) fun _ _ => True := by
  rw [recordTables]
  induction report.tables.filter fun filled => 0 < filled.rows with
  | nil => exact Action.tells_pure trivial
  | cons filled others ih =>
      rw [List.forM_eq_forM, List.forM_cons]
      refine Action.tells_bind (Action.tells_record ?_) fun _ _ _ => ih
      rfl

/-- The only events of the backfill are about tables. -/
theorem backfill_tells (policy : Policy) :
    (backfill policy).Tells (·.action = .backfilled) fun _ _ => True := by
  rw [backfill]
  split
  · apply Action.tells_bind (Action.tells_attempt (within_tells (Backfill.all_tells _) _))
    rintro (error | report) _ _
    · apply Action.tells_bind_silent (Action.tells_warn _)
      intro _
      exact Action.tells_pure trivial
    · apply Action.tells_bind (recordTables_tells report)
      intro _ _ _
      exact Action.tells_pure trivial
  · exact Action.tells_pure trivial

end Secure

/-- A run tells of its pass first and then of the tables. -/
theorem secure_tells (policy : Policy) :
    (secure policy).Tells (fun _ => True) fun report events =>
      ∀ summary, report.reconcile = some summary →
        ∃ passed filled, events = passed ++ filled ∧ Narrated summary.outcomes passed ∧
          ∀ event ∈ filled, event.action = .backfilled := by
  have backfills : (Secure.backfill policy).Tells (fun _ => True) fun _ events =>
      ∀ event ∈ events, event.action = .backfilled :=
    (Secure.backfill_tells policy).imp (fun _ _ => trivial) fun _ _ ofTables _ => ofTables
  rw [secure]
  apply Action.tells_bind (Secure.reconcile_tells policy)
  rintro ⟨passed?, missing⟩ passed narrated
  apply Action.tells_bind backfills
  rintro ⟨filled?, failed⟩ filled ofTables
  dsimp only
  split
  · apply Action.tells_bind_silent (Action.tells_warn _)
    intro _
    apply Action.tells_pure
    intro summary reported
    rw [List.append_nil]
    exact ⟨passed, filled, rfl, narrated summary reported, ofTables⟩
  · apply Action.tells_pure
    intro summary reported
    rw [List.append_nil]
    exact ⟨passed, filled, rfl, narrated summary reported, ofTables⟩

end TenantGuard
