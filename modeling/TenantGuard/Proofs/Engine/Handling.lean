import TenantGuard.Proofs.Engine.Chain
import TenantGuard.Proofs.Engine.Settled

/-!
# Handling the desired records of an entity type

A desired record is settled and then registered under its external identifier.
Registration touches nothing but external identifiers, so what the whole list
leaves in the store is what settling its records leaves: every record of the list
has been settled, and the records under other keys are as they were.
-/

namespace TenantGuard

/-- The stores hold the same records, and neither handed out an id nor counted a
change that the other did not. -/
structure Store.SameRecords (before after : Store) : Prop where
  records : ∀ kind, after.data.records kind = before.data.records kind
  lastId : after.lastId = before.lastId
  counts : after.counts = before.counts

namespace Store.SameRecords

variable {before between after : Store}

theorem refl (store : Store) : store.SameRecords store :=
  ⟨fun _ => rfl, rfl, rfl⟩

theorem symm (same : before.SameRecords after) : after.SameRecords before :=
  ⟨fun kind => (same.records kind).symm, same.lastId.symm, same.counts.symm⟩

theorem trans (first : before.SameRecords between) (second : between.SameRecords after) :
    before.SameRecords after where
  records := fun kind => (second.records kind).trans (first.records kind)
  lastId := second.lastId.trans first.lastId
  counts := second.counts.trans first.counts

/-- The store under a new savepoint holds the same records. -/
theorem opened (store : Store) (name : String) : store.SameRecords (store.savepoint name) :=
  ⟨fun _ => rfl, rfl, rfl⟩

theorem withSavepoints (store : Store) (savepoints : List Savepoint) :
    store.SameRecords { store with savepoints } :=
  ⟨fun _ => rfl, rfl, rfl⟩

theorem matching (same : before.SameRecords after) (desired : DesiredRecord) :
    after.matching desired = before.matching desired := by
  rw [Store.matching, Store.matching, same.records]

end Store.SameRecords

/-- The stores also hold the same external identifiers. -/
structure Store.SameEntries (before after : Store) : Prop extends before.SameRecords after where
  externalIds : after.data.externalIds = before.data.externalIds

namespace Store.SameEntries

variable {before between after : Store}

theorem refl (store : Store) : store.SameEntries store :=
  ⟨.refl store, rfl⟩

theorem symm (same : before.SameEntries after) : after.SameEntries before :=
  ⟨same.toSameRecords.symm, same.externalIds.symm⟩

theorem trans (first : before.SameEntries between) (second : between.SameEntries after) :
    before.SameEntries after :=
  ⟨first.toSameRecords.trans second.toSameRecords, second.externalIds.trans first.externalIds⟩

theorem opened (store : Store) (name : String) : store.SameEntries (store.savepoint name) :=
  ⟨.opened store name, rfl⟩

theorem withSavepoints (store : Store) (savepoints : List Savepoint) :
    store.SameEntries { store with savepoints } :=
  ⟨.withSavepoints store savepoints, rfl⟩

end Store.SameEntries

namespace DesiredRecord

/-- The external identifier of a desired record. -/
def reference (desired : DesiredRecord) (settings : ExternalIdSettings) : Reference :=
  ⟨settings.module, desired.externalId⟩

/-- What becomes of the external identifier, given the record that stands for the
desired one. -/
inductive Identifies (settings : ExternalIdSettings) (desired : DesiredRecord) :
    Option RecordId → Store → Option IdentifierCollision → Store → Prop where
  | nobody {store : Store} : Identifies settings desired none store none store
  | disabled {id : RecordId} {store : Store} (off : settings.enabled = false) :
      Identifies settings desired (some id) store none store
  | registered {id : RecordId} {store : Store} (enabled : settings.enabled = true)
      (free : store.externalId? (desired.reference settings) = none) :
      Identifies settings desired (some id) store none
        (store.insertExternalId (desired.reference settings) ⟨desired.kind.entity, id⟩)
  | existing {id : RecordId} {store : Store} (enabled : settings.enabled = true)
      (own : store.externalId? (desired.reference settings) = some ⟨desired.kind.entity, id⟩) :
      Identifies settings desired (some id) store none store
  | taken {id : RecordId} {store : Store} {target : Target} (enabled : settings.enabled = true)
      (bound : store.externalId? (desired.reference settings) = some target)
      (other : target ≠ ⟨desired.kind.entity, id⟩) :
      Identifies settings desired (some id) store
        (some ⟨desired.reference settings, target, ⟨desired.kind.entity, id⟩⟩) store

/-- Registration leaves the records alone. -/
theorem Identifies.sameRecords {settings : ExternalIdSettings} {desired : DesiredRecord}
    {id : Option RecordId} {before after : Store} {collision : Option IdentifierCollision}
    (identifies : desired.Identifies settings id before collision after) :
    before.SameRecords after := by
  cases identifies with
  | registered =>
      refine ⟨?_, rfl, rfl⟩
      intro kind
      cases kind <;> rfl
  | nobody | disabled | existing | taken => exact .refl _

/-- What becomes of a desired record and its external identifier. -/
structure Handles (policy : Policy) (desired : DesiredRecord) (before : Store)
    (result : RecordReport × Option IdentifierCollision) (after : Store) : Prop where
  reported : result.1 = ⟨desired.kind, desired.name, result.1.outcome⟩
  steps : ∃ between, desired.Settles before result.1.outcome between ∧
    desired.Identifies policy.config.externalIds result.1.outcome.id? between result.2 after

end DesiredRecord

namespace Reconcile

open DesiredRecord

/-- A reference is registered unless it stands for another record. -/
theorem register_ensures {session : Session} (reference : Reference) (kind : RecordKind)
    (id : RecordId) :
    session.Ensures (Registration.register reference kind id)
      (fun registration after =>
        (registration = .created ∧ session.host.store.externalId? reference = none ∧
          after.host.store = session.host.store.insertExternalId reference ⟨kind.entity, id⟩) ∨
        (registration = .existing ∧
          session.host.store.externalId? reference = some ⟨kind.entity, id⟩ ∧
          after.host.store = session.host.store) ∨
        ∃ target, registration = .collision ⟨reference, target, ⟨kind.entity, id⟩⟩ ∧
          session.host.store.externalId? reference = some target ∧
          target ≠ ⟨kind.entity, id⟩ ∧ after.host.store = session.host.store)
      (fun _ after => after.host.store = session.host.store ∧
        ∃ method, session.host.Loses method) := by
  rw [Registration.register]
  apply Session.ensures_bind
  apply Session.ensures_call
  · intro found looked answered
    have unchanged : looked.host.store = session.host.store := answered.store
    have isFound : found = session.host.store.externalId? reference := answered.eq_arranged rfl
    rw [isFound]
    cases bound : session.host.store.externalId? reference with
    | none =>
      apply Session.ensures_bind
      apply Session.ensures_call
      · rintro ⟨⟩ after answeredCreate
        apply Session.ensures_pure
        refine .inl ⟨rfl, rfl, ?_⟩
        have created := answeredCreate.store
        rw [unchanged] at created
        rw [created, Call.run, Store.createExternalId, bound]
      · intro _ after failed
        have answers : ((Call.createExternalId reference ⟨kind.entity, id⟩).run
            looked.host.store).1 = .ok () := by
          rw [unchanged, Call.run, Store.createExternalId, bound]
        exact ⟨failed.store.trans unchanged, _, answered.continues.loses (failed.loses answers)⟩
    | some target =>
      dsimp only
      split
      next own =>
        apply Session.ensures_pure
        exact .inr (.inl ⟨rfl, congrArg some own, unchanged⟩)
      next other =>
        apply Session.ensures_bind_warn
        intro warned sameHost
        apply Session.ensures_pure
        rw [sameHost]
        exact .inr (.inr ⟨target, rfl, rfl, other, unchanged⟩)
  · intro _ after failed
    exact ⟨failed.store, _, failed.loses rfl⟩

theorem identify_ensures {session : Session} (policy : Policy) (entity : String)
    (desired : DesiredRecord) (id : Option RecordId) :
    session.Ensures (identify policy entity desired id)
      (fun collision after => desired.Identifies policy.config.externalIds id
        session.host.store collision after.host.store)
      (fun _ after => after.host.store = session.host.store ∧
        ∃ method, session.host.Loses method) := by
  cases id with
  | none => exact Session.ensures_pure .nobody
  | some id =>
      rw [identify]
      split
      next enabled =>
        apply Session.ensures_bind
        apply (register_ensures _ _ _).imp
        · rintro registration after
            (⟨rfl, free, left⟩ | ⟨rfl, own, left⟩ | ⟨target, rfl, bound, other, left⟩)
          · apply Session.ensures_bind_record
            intro recorded sameHost
            apply Session.ensures_pure
            rw [sameHost, left]
            exact .registered enabled free
          · apply Session.ensures_pure
            rw [left]
            exact .existing enabled own
          · apply Session.ensures_bind_record
            intro recorded sameHost
            apply Session.ensures_pure
            rw [sameHost, left]
            exact .taken enabled bound other
        · rintro _ after stopped
          exact stopped
      next disabled =>
        apply Session.ensures_pure
        exact .disabled (by simpa using disabled)

/-- A desired record is settled and registered, or a call that is lost or refused interrupts
that. -/
theorem one_ensures {session : Session} (orderly : session.host.Orderly) (policy : Policy)
    (entity : String) (desired : DesiredRecord) :
    session.Ensures (one policy entity desired)
      (fun result after => desired.Handles policy session.host.store result after.host.store)
      (fun error after => desired.Interrupted session.host.store after.host.store ∧
        session.host.Obstructs (desired.Refused session.host.store) error) := by
  rw [one]
  apply Session.ensures_bind
  apply ((record_ensures orderly entity desired).and_keeps
    (holds_record (Step.keeps_compositional Host.Continues.kept) entity desired)).imp
  · rintro outcome settled ⟨settles, goesOn⟩
    apply Session.ensures_bind
    apply (identify_ensures policy entity desired outcome.id?).imp
    · intro collision after identifies
      apply Session.ensures_pure
      exact ⟨rfl, settled.host.store, settles, identifies⟩
    · rintro _ after ⟨left, method, lost⟩
      rw [left]
      exact ⟨.settled settles, (goesOn.loses lost).obstructs⟩
  · rintro _ after ⟨stopped, _⟩
    exact stopped

/-- How handling is interrupted somewhere in a list of desired records. -/
def Breaks (policy : Policy) (desired : List DesiredRecord) (before after : Store) : Prop :=
  ∃ done broken rest results between, desired = done ++ broken :: rest ∧
    Chain (DesiredRecord.Handles policy) done before results between ∧
    broken.Interrupted between after

/-- The store refuses what has to be written for a record of the list when the records
before it have been handled. -/
def Refuses (policy : Policy) (desired : List DesiredRecord) (before : Store)
    (cause : StoreError) : Prop :=
  ∃ done broken rest results between, desired = done ++ broken :: rest ∧
    Chain (DesiredRecord.Handles policy) done before results between ∧
    broken.Refused between cause

/-- The desired records of an entity type are handled one after the other, as far as
no call fails. -/
theorem mapM_one_ensures {session : Session} (orderly : session.host.Orderly)
    (policy : Policy) (entity : String) (desired : List DesiredRecord) :
    session.Ensures (desired.mapM (one policy entity))
      (fun results after => Chain (DesiredRecord.Handles policy) desired session.host.store
        results after.host.store)
      (fun error after => Breaks policy desired session.host.store after.host.store ∧
        session.host.Obstructs (Refuses policy desired session.host.store) error) := by
  apply (Session.ensures_mapM (fun reached => reached.host.store)
    (DesiredRecord.Handles policy)
    (fun broken before error after => broken.Interrupted before after ∧
      session.host.Obstructs (broken.Refused before) error)
    (fun reached => session.host.Continues reached.host) _ (.refl _)).imp
  · intro results after chain
    exact chain
  · rintro _ after ⟨done, broken, rest, results, between, split, chain, cut, obstructs⟩
    exact ⟨⟨done, broken, rest, results, between, split, chain, cut⟩, obstructs.imp
      fun _ refused => ⟨done, broken, rest, results, between, split, chain, refused⟩⟩
  · intro record reached goesOn
    apply ((one_ensures (goesOn.orderly orderly) policy entity record).and_keeps
      (holds_one (Step.keeps_compositional Host.Continues.kept) policy entity record)).imp
    · rintro result after ⟨handles, continues⟩
      exact ⟨handles, goesOn.trans continues⟩
    · rintro _ after ⟨⟨interrupted, obstructs⟩, _⟩
      exact ⟨interrupted, goesOn.obstructs obstructs⟩

end Reconcile

end TenantGuard
