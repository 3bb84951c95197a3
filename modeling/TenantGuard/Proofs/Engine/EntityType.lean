import TenantGuard.Proofs.Engine.Handling

/-!
# Reconciling one entity type

The desired records of an entity type are handled under a savepoint.  There are five
ways in which that can go, and only one of them leaves no failure of the store in
the outcome: every record was handled and the savepoint was released.  The others
need a lost call, or a store that refuses to write.
-/

namespace TenantGuard

namespace DesiredRecord

variable {desired : DesiredRecord} {before after : Store}

theorem Merges.savepoints {kept : RecordId} {copies : List RecordId}
    (merges : desired.Merges before kept copies after) : after.savepoints = before.savepoints := by
  rw [merges.left]
  split
  · rfl
  · rfl

theorem Settles.savepoints {outcome : RecordOutcome}
    (settles : desired.Settles before outcome after) : after.savepoints = before.savepoints := by
  cases settles with
  | created missing creates =>
      obtain ⟨_, rfl⟩ := Store.create_eq_ok creates
      rfl
  | conflicting => rfl
  | unchanged merges => exact merges.savepoints
  | updated merges differ writes =>
      obtain ⟨current, _, rfl⟩ := Store.write_eq_ok writes
      exact merges.savepoints

theorem Interrupted.savepoints (interrupted : desired.Interrupted before after) :
    after.savepoints = before.savepoints := by
  cases interrupted with
  | untouched => rfl
  | merged merges => exact merges.savepoints
  | settled settles => exact settles.savepoints

theorem Identifies.savepoints {settings : ExternalIdSettings} {id : Option RecordId}
    {collision : Option IdentifierCollision}
    (identifies : desired.Identifies settings id before collision after) :
    after.savepoints = before.savepoints := by
  cases identifies with
  | nobody | disabled | registered | existing | taken => rfl

theorem Handles.savepoints {policy : Policy} {result : RecordReport × Option IdentifierCollision}
    (handles : desired.Handles policy before result after) :
    after.savepoints = before.savepoints := by
  obtain ⟨between, settles, identifies⟩ := handles.steps
  rw [identifies.savepoints, settles.savepoints]

end DesiredRecord

namespace Reconcile

/-- Handling desired records opens and closes no savepoint. -/
theorem savepoints_of_chain {policy : Policy} {desired : List DesiredRecord}
    {before after : Store} {results : List (RecordReport × Option IdentifierCollision)}
    (chain : Chain (DesiredRecord.Handles policy) desired before results after) :
    after.savepoints = before.savepoints :=
  chain.invariant (fun reached => reached.savepoints = before.savepoints)
    (fun handles same => handles.savepoints.trans same) rfl

theorem Breaks.savepoints {policy : Policy} {desired : List DesiredRecord}
    {before after : Store} (breaks : Breaks policy desired before after) :
    after.savepoints = before.savepoints := by
  obtain ⟨done, broken, rest, results, between, _, chain, interrupted⟩ := breaks
  rw [interrupted.savepoints, savepoints_of_chain chain]

/-- How bringing the desired records of an entity type into the store can go. -/
inductive EntityRun (policy : Policy) (start : EntityOutcome) (desired : List DesiredRecord)
    (before : Host) : EntityOutcome → Host → Prop where
  | finished {results : List (RecordReport × Option IdentifierCollision)} {reached : Store}
      {after : Host}
      (chain : Chain (DesiredRecord.Handles policy) desired
        (before.store.savepoint entitySavepoint) results reached)
      (left : after.store = { reached with savepoints := before.store.savepoints }) :
      EntityRun policy start desired before
        { start with records := results.map (·.1), collisions := results.filterMap (·.2) } after
  /-- The savepoint could not be opened. -/
  | unopened {after : Host} {error : EngineError} (lost : before.Loses .savepoint)
      (left : after.store = before.store) :
      EntityRun policy start desired before
        { start with failures := start.failures ++ [⟨start.entity, .store, error.message⟩] } after
  /-- Every record was handled, but the savepoint stays open. -/
  | unclosed {results : List (RecordReport × Option IdentifierCollision)} {after : Host}
      {error : EngineError} (lost : before.Loses .releaseSavepoint)
      (chain : Chain (DesiredRecord.Handles policy) desired
        (before.store.savepoint entitySavepoint) results after.store) :
      EntityRun policy start desired before
        { start with
          records := results.map (·.1)
          collisions := results.filterMap (·.2)
          failures := start.failures ++ [⟨start.entity, .store, error.message⟩] } after
  /-- What was done until a call failed is taken back. -/
  | rolledBack {reached : Store} {after : Host} {error : EngineError}
      (obstructs : before.Obstructs
        (Refuses policy desired (before.store.savepoint entitySavepoint)) error)
      (breaks : Breaks policy desired (before.store.savepoint entitySavepoint) reached)
      (left : after.store =
        { reached with data := before.store.data, savepoints := before.store.savepoints }) :
      EntityRun policy start desired before
        { start with failures := start.failures ++ [⟨start.entity, .store, error.message⟩] } after
  /-- What was done until a call failed could not be taken back. -/
  | abandoned {after : Host} {error closing : EngineError}
      (lost : before.Loses .rollbackToSavepoint)
      (breaks : Breaks policy desired (before.store.savepoint entitySavepoint) after.store) :
      EntityRun policy start desired before
        { start with
          failures := start.failures ++
            [⟨start.entity, .store, error.message⟩, ⟨start.entity, .store, closing.message⟩] }
        after

theorem storeFailure_yields {session : Session} (entity : String) (error : EngineError) :
    session.Yields (storeFailure entity error) fun failure after =>
      failure = ⟨entity, .store, error.message⟩ ∧ after.host = session.host := by
  rw [storeFailure]
  apply Session.yields_bind_warn
  intro warned sameHost
  exact Session.yields_pure ⟨rfl, sameHost⟩

/-- A savepoint that is the latest one is released, unless the call is lost. -/
theorem closeEntity_yields {session : Session} (entity : String) {name : String}
    {data : StoreData} {earlier : List Savepoint}
    (opened : session.host.store.savepoints = ⟨name, data⟩ :: earlier) :
    session.Yields (closeEntity entity (.releaseSavepoint name)) fun closing after =>
      (closing = [] ∧ after.host.store = { session.host.store with savepoints := earlier }) ∨
      (∃ error : EngineError, closing = [⟨entity, .store, error.message⟩] ∧
        session.host.Loses .releaseSavepoint ∧ after.host.store = session.host.store) := by
  have found : Store.popTo? name session.host.store.savepoints = some (data, earlier) := by
    rw [opened, Store.popTo?_head]
  rw [closeEntity]
  apply Session.yields_bind
  apply Session.yields_attempt
  apply Session.ensures_call
  · rintro ⟨⟩ after answered
    have released := answered.store
    rw [Call.run_releaseSavepoint found] at released
    exact Session.yields_pure (.inl ⟨rfl, released⟩)
  · intro error after failed
    apply Session.yields_bind
    apply (storeFailure_yields entity error).imp
    rintro failure warned ⟨rfl, sameHost⟩
    apply Session.yields_pure
    rw [sameHost]
    have answers := congrArg Prod.fst (Call.run_releaseSavepoint found)
    exact .inr ⟨error, rfl, failed.loses answers, failed.store⟩

/-- Bringing the desired records of an entity type into the store goes in one of the
five ways. -/
theorem records_yields {session : Session} (orderly : session.host.Orderly) (policy : Policy)
    (start : EntityOutcome) (desired : List DesiredRecord) :
    session.Yields (records policy start desired) fun outcome after =>
      EntityRun policy start desired session.host outcome after.host := by
  rw [records]
  apply Session.yields_bind
  apply Session.yields_attempt
  apply Session.ensures_call
  · rintro ⟨⟩ opened answered
    have saved : opened.host.store = session.host.store.savepoint entitySavepoint :=
      answered.store
    have goesOn := answered.continues
    apply Session.yields_bind
    apply Session.yields_attempt
    apply ((mapM_one_ensures (goesOn.orderly orderly) policy start.entity desired).and_keeps
      (holds_mapM_one (Step.keeps_compositional Host.Continues.kept) policy _ _)).imp
    · rintro results handled ⟨chain, stillGoesOn⟩
      rw [saved] at chain
      apply Session.yields_bind
      apply (closeEntity_yields start.entity (savepoints_of_chain chain)).imp
      rintro closing closed (⟨rfl, left⟩ | ⟨error, rfl, lost, left⟩)
      · apply Session.yields_pure
        rw [List.append_nil]
        exact .finished chain left
      · apply Session.yields_pure
        rw [← left] at chain
        exact .unclosed ((goesOn.trans stillGoesOn).loses lost) chain
    · rintro error stopped ⟨⟨breaks, obstructs⟩, stillGoesOn⟩
      rw [saved] at breaks obstructs
      apply Session.yields_bind
      apply (storeFailure_yields start.entity error).imp
      rintro failure warned ⟨rfl, sameHost⟩
      apply Session.yields_bind
      apply Session.yields_attempt
      have found : Store.popTo? entitySavepoint warned.host.store.savepoints =
          some (session.host.store.data, session.host.store.savepoints) := by
        rw [sameHost, breaks.savepoints, Store.savepoint, Store.popTo?_head]
      apply Session.ensures_call
      · rintro ⟨⟩ restored answeredRollback
        have left := answeredRollback.store
        rw [Call.run_rollbackToSavepoint found, sameHost] at left
        apply Session.yields_bind_warn
        intro logged sameHostAgain
        apply Session.yields_bind
        apply Session.yields_pure
        apply Session.yields_pure
        rw [sameHostAgain]
        exact .rolledBack (goesOn.obstructs obstructs) breaks left
      · intro closing unrestored failed
        apply Session.yields_bind_warn
        intro logged sameHostAgain
        apply Session.yields_bind
        apply (storeFailure_yields start.entity closing).imp
        rintro closingFailure closed ⟨rfl, sameHostLast⟩
        apply Session.yields_bind
        apply Session.yields_pure
        apply Session.yields_pure
        have left := failed.store
        rw [sameHost] at left
        rw [← left] at breaks
        rw [sameHostLast, sameHostAgain]
        have lost := failed.loses (congrArg Prod.fst (Call.run_rollbackToSavepoint found))
        rw [sameHost] at lost
        exact .abandoned ((goesOn.trans stillGoesOn).loses lost) breaks
  · intro error after failed
    apply Session.yields_bind
    apply (storeFailure_yields start.entity error).imp
    rintro failure warned ⟨rfl, sameHost⟩
    apply Session.yields_pure
    rw [sameHost]
    exact .unopened (failed.loses rfl) failed.store

/-- The outcome of an entity type before any of its records is handled. -/
def startOutcome (policy : Policy) (entityType : EntityType) : EntityOutcome where
  entity := entityType.name
  securityClass := policy.classifier.classify entityType.name
  failures :=
    match Rule.compile entityType.name (policy.classifier.classify entityType.name)
        policy.config.tenancy with
    | .ok _ => []
    | .error error => [⟨entityType.name, .compile, error.message⟩]

/-- Without desired records there is nothing to be done, and nothing is. -/
theorem run_yields {session : Session} (orderly : session.host.Orderly) (policy : Policy)
    {start : EntityOutcome} (desired : List DesiredRecord) (noRecords : start.records = [])
    (noCollisions : start.collisions = []) :
    session.Yields (entity.run policy start desired) fun outcome after =>
      EntityRun policy start desired session.host outcome after.host := by
  rw [entity.run]
  split
  next none =>
    rw [List.isEmpty_iff] at none
    apply Session.yields_pure
    have untouched : start = { start with records := [], collisions := [] } := by
      cases start
      cases noRecords
      cases noCollisions
      rfl
    rw [none]
    conv => arg 5; rw [untouched]
    exact .finished .nil rfl
  next => exact records_yields orderly policy start desired

/-- Reconciling an entity type goes in one of the five ways. -/
theorem entity_yields {session : Session} (orderly : session.host.Orderly) (policy : Policy)
    {entityType : EntityType} (secured : entityType.name ≠ EntityType.ruleName)
    (group : Option RecordId) :
    session.Yields (entity policy entityType group) fun outcome after =>
      EntityRun policy (startOutcome policy entityType)
        (policy.desiredRecords entityType group) session.host outcome after.host := by
  rw [entity]
  dsimp only
  rw [if_neg secured, startOutcome, Policy.desiredRecords]
  cases Rule.compile entityType.name (policy.classifier.classify entityType.name)
      policy.config.tenancy with
  | ok rules =>
      apply run_yields orderly policy
      · rfl
      · rfl
  | error error =>
      apply Session.yields_bind_warn
      intro warned sameHost
      rw [← sameHost]
      rw [← sameHost] at orderly
      apply run_yields orderly policy
      · rfl
      · rfl

end Reconcile

end TenantGuard
