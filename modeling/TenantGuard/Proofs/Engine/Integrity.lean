import Mathlib.Data.List.Sort
import TenantGuard.Proofs.Engine.Bindings
import TenantGuard.Proofs.Engine.Securing

/-!
# External identifiers and the records they stand for

An identifier that stands for a record never outlives it: removing records removes their
identifiers, and the engine binds an identifier only to a record that it has just found or
created.  What a savepoint remembers was once the data of the store, so going back to one
brings back identifiers together with the records they stood for.
-/

namespace TenantGuard

/-- Every external identifier of a record stands for one that is there. -/
def StoreData.Intact (data : StoreData) : Prop :=
  ∀ (reference : Reference) (kind : RecordKind) (id : RecordId),
    data.externalIds[reference]? = some ⟨kind.entity, id⟩ → id ∈ data.records kind

theorem StoreData.intact_iff {data : StoreData} :
    data.Intact ↔ ∀ entry ∈ data.externalIds.toList, ∀ kind ∈ [RecordKind.rule, .accessGrant],
      entry.2.entity = kind.entity → entry.2.id ∈ data.records kind := by
  constructor
  · rintro intact ⟨reference, entity, id⟩ listed kind _ rfl
    rw [Std.ExtTreeMap.mem_toList_iff_getElem?_eq_some] at listed
    exact intact reference kind id listed
  · intro listed reference kind id bound
    rw [← Std.ExtTreeMap.mem_toList_iff_getElem?_eq_some] at bound
    refine listed _ bound kind ?_ rfl
    cases kind with
    | rule | accessGrant => simp

instance {data : StoreData} : Decidable data.Intact :=
  decidable_of_iff _ StoreData.intact_iff.symm

/-- The identifiers stay as they are, and no record is lost. -/
theorem StoreData.Intact.of_grown {before after : StoreData} (intact : before.Intact)
    (same : after.externalIds = before.externalIds)
    (grown : ∀ kind, ∀ id ∈ before.records kind, id ∈ after.records kind) : after.Intact := by
  intro reference kind id bound
  rw [same] at bound
  exact grown kind id (intact reference kind id bound)

/-- Whether the method binds an external identifier. -/
def Method.bindsIdentifiers : Method → Bool
  | .createExternalId => true
  | .entityTypes | .resolveGroup | .search | .read | .create | .write | .unlink | .findExternalId
  | .savepoint | .releaseSavepoint | .rollbackToSavepoint | .tablesWithColumn
  | .fillNullColumn => false

namespace Store

/-- No identifier stands for a record that is missing, neither now nor after going back to
a savepoint. -/
structure Intact (store : Store) : Prop where
  current : store.data.Intact
  remembered : ∀ savepoint ∈ store.savepoints, savepoint.data.Intact

theorem intact_iff {store : Store} :
    store.Intact ↔ store.data.Intact ∧ ∀ savepoint ∈ store.savepoints, savepoint.data.Intact :=
  ⟨fun intact => ⟨intact.current, intact.remembered⟩, fun both => ⟨both.1, both.2⟩⟩

instance {store : Store} : Decidable store.Intact :=
  decidable_of_iff _ intact_iff.symm

variable {store before after : Store} {kind : RecordKind} {id : RecordId}

theorem Intact.putRecord (intact : store.Intact) (kind : RecordKind) (id : RecordId)
    (values : Values) : (store.putRecord kind id values).Intact := by
  refine ⟨intact.current.of_grown (StoreData.externalIds_withRecords _ _ _) ?_, intact.remembered⟩
  intro other old present
  rw [RecordTable.mem_iff_stored] at present ⊢
  rw [getElem?_putRecord]
  split
  · exact ⟨values, rfl⟩
  · exact present

theorem Intact.unlink (intact : store.Intact) (kind : RecordKind) (ids : List RecordId) :
    (store.unlink kind ids).Intact := by
  refine ⟨?_, intact.remembered⟩
  intro reference other id bound
  obtain ⟨old, kept⟩ := externalId?_unlink.mp bound
  have present := intact.current reference other id old
  rw [RecordTable.mem_iff_stored] at present ⊢
  -- The identifier is still bound, so its record is not among those that are removed.
  rw [getElem?_unlink, if_neg]
  · exact present
  · rintro ⟨rfl, listed⟩
    exact kept ⟨rfl, listed⟩

/-- An identifier is bound to a record that is there. -/
theorem Intact.insertExternalId (intact : store.Intact) (reference : Reference)
    (present : id ∈ store.data.records kind) :
    (store.insertExternalId reference ⟨kind.entity, id⟩).Intact := by
  have same : (store.insertExternalId reference ⟨kind.entity, id⟩).data.records =
      store.data.records := by
    funext other
    cases other with
    | rule | accessGrant => rfl
  refine ⟨?_, intact.remembered⟩
  intro other otherKind otherId bound
  rw [same]
  replace bound := externalId?_insertExternalId.symm.trans bound
  split at bound
  · rw [Option.some.injEq, Target.mk.injEq] at bound
    obtain ⟨sameEntity, rfl⟩ := bound
    rw [← RecordKind.entity_injective sameEntity]
    exact present
  · exact intact.current other otherKind otherId bound

/-- The records and identifiers are those of an intact store. -/
theorem Intact.of_sameEntries (intact : before.Intact) (same : before.SameEntries after)
    (remembered : ∀ savepoint ∈ after.savepoints, savepoint.data.Intact) : after.Intact := by
  refine ⟨intact.current.of_grown same.externalIds ?_, remembered⟩
  intro kind id present
  rw [same.records]
  exact present

/-- What a savepoint remembers is intact, and so is all that was remembered before it. -/
theorem Intact.of_popTo? (intact : store.Intact) {name : String} {data : StoreData}
    {earlier : List Savepoint} (found : popTo? name store.savepoints = some (data, earlier)) :
    data.Intact ∧ ∀ savepoint ∈ earlier, savepoint.data.Intact := by
  obtain ⟨newer, stack, _⟩ := popTo?_eq_some_iff.mp found
  have remembered := intact.remembered
  rw [stack, List.forall_mem_append, List.forall_mem_cons] at remembered
  exact remembered.2

/-- Every call but the one that binds an identifier keeps a store intact. -/
theorem Intact.call {α : Type} (intact : store.Intact) (request : Call α)
    (others : request.method.bindsIdentifiers = false) : (request.run store).2.Intact := by
  cases request with
  | create kind values =>
      rw [Call.run, Store.create]
      split
      · exact intact
      · have put := intact.putRecord kind (store.lastId + 1) values.normalized
        exact ⟨put.current, put.remembered⟩
  | write kind id values =>
      rw [Call.run, Store.write]
      split
      · exact intact
      · split
        · exact intact
        next current _ _ _ =>
          have put := intact.putRecord kind id (current.overwrite values.normalized)
          exact ⟨put.current, put.remembered⟩
  | unlink kind ids => exact intact.unlink kind ids
  | savepoint name =>
      refine ⟨intact.current, ?_⟩
      rw [Call.run, Store.savepoint, List.forall_mem_cons]
      exact ⟨intact.current, intact.remembered⟩
  | releaseSavepoint name =>
      rw [Call.run, Store.releaseSavepoint]
      split
      · exact intact
      next data earlier found => exact ⟨intact.current, (intact.of_popTo? found).2⟩
  | rollbackToSavepoint name =>
      rw [Call.run, Store.rollbackToSavepoint]
      split
      · exact intact
      next data earlier found =>
        obtain ⟨current, remembered⟩ := intact.of_popTo? found
        exact ⟨current, remembered⟩
  | fillNullColumn table column value =>
      rw [Call.run, Store.fillNullColumn]
      split
      · exact intact
      · split
        · exact intact
        · exact intact.of_sameEntries (sameEntries_addTable _) intact.remembered
  | entityTypes | resolveGroup | search | read | findExternalId | tablesWithColumn =>
      exact intact
  | createExternalId => cases others

end Store

namespace DesiredRecord

variable {desired : DesiredRecord} {before after : Store} {outcome : RecordOutcome}
  {id : RecordId}

/-- The record that stands for the desired one is there. -/
theorem Settles.present (settles : desired.Settles before outcome after)
    (named : outcome.id? = some id) : id ∈ after.data.records desired.kind := by
  rw [RecordTable.mem_iff_stored]
  cases settles with
  | created missing creates =>
      cases named
      rw [Store.getElem?_of_create creates, if_pos ⟨rfl, rfl⟩]
      exact ⟨_, rfl⟩
  | conflicting => cases named
  | unchanged merges =>
      cases named
      obtain ⟨values, _, present⟩ := merges.present
      exact ⟨values, present⟩
  | updated merges differ writes =>
      cases named
      obtain ⟨values, _, present⟩ := merges.present
      rw [Store.getElem?_of_write writes present, if_pos ⟨rfl, rfl⟩]
      exact ⟨_, rfl⟩

theorem Merges.intact {kept : RecordId} {copies : List RecordId}
    (merges : desired.Merges before kept copies after) (intact : before.Intact) :
    after.Intact := by
  rw [merges.left]
  split
  · exact intact
  · exact intact.unlink desired.kind copies

theorem Settles.intact (settles : desired.Settles before outcome after)
    (intact : before.Intact) : after.Intact := by
  cases settles with
  | created missing creates =>
      have created := intact.call (.create desired.kind desired.values) rfl
      rw [Call.run, creates] at created
      exact created
  | conflicting => exact intact
  | unchanged merges => exact merges.intact intact
  | @updated between _ kept _ merges differ writes =>
      have written := (merges.intact intact).call
        (.write desired.kind kept (desired.changesOf (before.matching desired))) rfl
      rw [Call.run, writes] at written
      exact written

theorem Interrupted.intact (interrupted : desired.Interrupted before after)
    (intact : before.Intact) : after.Intact := by
  cases interrupted with
  | untouched => exact intact
  | merged merges => exact merges.intact intact
  | settled settles => exact settles.intact intact

theorem Identifies.intact {settings : ExternalIdSettings} {stands : Option RecordId}
    {collision : Option IdentifierCollision}
    (identifies : desired.Identifies settings stands before collision after)
    (present : ∀ id, stands = some id → id ∈ before.data.records desired.kind)
    (intact : before.Intact) : after.Intact := by
  cases identifies with
  | registered => exact intact.insertExternalId _ (present _ rfl)
  | nobody | disabled | existing | taken => exact intact

theorem Handles.intact {policy : Policy} {result : RecordReport × Option IdentifierCollision}
    (handles : desired.Handles policy before result after) (intact : before.Intact) :
    after.Intact := by
  obtain ⟨between, settles, identifies⟩ := handles.steps
  exact identifies.intact (fun _ => settles.present) (settles.intact intact)

end DesiredRecord

namespace Reconcile

variable {policy : Policy}

theorem intact_of_chain {desired : List DesiredRecord} {before after : Store}
    {results : List (RecordReport × Option IdentifierCollision)}
    (chain : Chain (DesiredRecord.Handles policy) desired before results after)
    (intact : before.Intact) : after.Intact :=
  chain.invariant Store.Intact (fun handles => handles.intact) intact

theorem Breaks.intact {desired : List DesiredRecord} {before after : Store}
    (breaks : Breaks policy desired before after) (intact : before.Intact) : after.Intact := by
  obtain ⟨done, broken, rest, results, between, _, chain, interrupted⟩ := breaks
  exact interrupted.intact (intact_of_chain chain intact)

/-- An entity type keeps the store intact, also where its work could not be taken back. -/
theorem EntityRun.intact {start outcome : EntityOutcome} {desired : List DesiredRecord}
    {before after : Host} (run : EntityRun policy start desired before outcome after)
    (intact : before.store.Intact) : after.store.Intact := by
  have opened : (before.store.savepoint entitySavepoint).Intact :=
    intact.call (.savepoint entitySavepoint) rfl
  -- What is taken back was intact before, and what stays was handled record by record.
  cases run with
  | finished chain left =>
      rw [left]
      exact ⟨(intact_of_chain chain opened).current, intact.remembered⟩
  | unopened lost left =>
      rw [left]
      exact intact
  | unclosed lost chain => exact intact_of_chain chain opened
  | rolledBack hindered breaks left =>
      rw [left]
      exact ⟨intact.current, intact.remembered⟩
  | abandoned lost breaks => exact breaks.intact opened

theorem PassRun.intact {before after : Host} {summary : Summary}
    (pass : PassRun policy before summary after) (intact : before.store.Intact) :
    after.store.Intact := by
  obtain ⟨start, outcomes, sameStore, _, chain, _⟩ := pass.steps
  rw [← sameStore] at intact
  exact chain.invariant (fun reached => reached.store.Intact)
    (fun reconciles => reconciles.run.intact) intact

end Reconcile

/-- Searches list the records they found, and no identifier stands for a record that is
missing. -/
structure Host.Sound (host : Host) : Prop where
  orderly : host.Orderly
  intact : host.store.Intact

/-- However the step ends, it leaves a sound host sound. -/
def Step.Upholds {α : Type} (step : Step α) : Prop :=
  ∀ session : Session, session.host.Sound → (session.run step).2.host.Sound

namespace Step

variable {α β : Type}

theorem upholds_pure (value : α) : Upholds (pure value) :=
  fun _ sound => sound

theorem upholds_throw (error : EngineError) : Step.Upholds (throw error : Step α) :=
  fun _ sound => sound

theorem upholds_warn (event : LogEvent) : Upholds (liftM (Action.warn event)) :=
  fun _ sound => sound

theorem upholds_attempt {step : Step α} (upholds : step.Upholds) : step.attempt.Upholds :=
  upholds

theorem upholds_call {request : Call α} (others : request.method.bindsIdentifiers = false) :
    (Step.call request).Upholds := by
  intro session sound
  have goesOn := Step.keeps_call Host.Continues.kept request session
  have intact : session.Ensures (Step.call request) (fun _ after => after.host.store.Intact)
      (fun _ after => after.host.store.Intact) := by
    apply Session.ensures_call
    · intro answer after answered
      rw [answered.store]
      exact sound.intact.call request others
    · intro error after failed
      rw [failed.store]
      exact sound.intact
  exact ⟨goesOn.orderly sound.orderly, Session.ensures_either_iff.mp intact⟩

theorem upholds_bind {first : Step β} {next : β → Step α} (firstUpholds : first.Upholds)
    (nextUpholds : ∀ value, (next value).Upholds) : Upholds (first >>= next) := by
  intro session sound
  have soundBetween := firstUpholds session sound
  rw [Session.run_bind]
  obtain ⟨value, after, ran⟩ | ⟨error, after, ran⟩ := session.returns_or_stops first
  · rw [ran] at soundBetween ⊢
    exact nextUpholds value after soundBetween
  · rw [ran] at soundBetween ⊢
    exact soundBetween

theorem upholds_foldlM {work : β → α → Step β} {inputs : List α} {start : β}
    (upholds : ∀ reached input, (work reached input).Upholds) :
    Upholds (inputs.foldlM work start) := by
  induction inputs generalizing start with
  | nil => exact upholds_pure start
  | cons input inputs ih =>
      rw [List.foldlM_cons]
      apply upholds_bind (upholds start input)
      intro reached
      exact ih

end Step

theorem Backfill.upholds_table (settings : BackfillSettings) (report : BackfillReport)
    (name : String) : (table settings report name).Upholds := by
  rw [table]
  split
  · apply Step.upholds_bind (Step.upholds_call rfl)
    intro _
    apply Step.upholds_bind (Step.upholds_attempt (Step.upholds_call rfl))
    intro filled
    split
    · apply Step.upholds_bind (Step.upholds_call rfl)
      intro _
      exact Step.upholds_pure _
    · apply Step.upholds_bind (Step.upholds_call rfl)
      intro _
      apply Step.upholds_bind (Step.upholds_warn _)
      intro _
      exact Step.upholds_pure _
  · apply Step.upholds_bind (Step.upholds_warn _)
    intro _
    exact Step.upholds_pure _

theorem Backfill.upholds_all (settings : BackfillSettings) : (all settings).Upholds := by
  rw [all]
  split
  · apply Step.upholds_bind (Step.upholds_call rfl)
    intro tables
    exact Step.upholds_foldlM (upholds_table settings)
  · exact Step.upholds_throw _

theorem Reconcile.upholds_all (policy : Policy) : (all policy).Upholds := by
  intro session sound
  have goesOn := keeps_all Host.Continues.kept policy session
  have intact : session.Ensures (all policy) (fun _ after => after.host.store.Intact)
      (fun _ after => after.host.store.Intact) := by
    apply (all_ensures sound.orderly policy).imp
    · exact fun _ after pass => pass.intact sound.intact
    · rintro _ after ⟨left, _⟩
      rw [left]
      exact sound.intact
  exact ⟨goesOn.orderly sound.orderly, Session.ensures_either_iff.mp intact⟩

/-- Work under a savepoint leaves a sound host sound if the work itself does, also where the
savepoint cannot be closed. -/
theorem Secure.upholds_within {α : Type} (savepoint : String) {work : Step α}
    (upholds : work.Upholds) : (within savepoint work).Upholds := by
  rw [within]
  apply Step.upholds_bind (Step.upholds_call rfl)
  intro _
  apply Step.upholds_bind (Step.upholds_attempt upholds)
  intro worked
  split
  · apply Step.upholds_bind (Step.upholds_call rfl)
    intro _
    exact Step.upholds_pure _
  · apply Step.upholds_bind (Step.upholds_attempt (Step.upholds_call rfl))
    intro closed
    split
    · exact Step.upholds_throw _
    · apply Step.upholds_bind (Step.upholds_warn _)
      intro _
      exact Step.upholds_throw _

/-- Whichever calls are lost or refused, a run leaves no identifier of a record that is
missing, in the data or in a savepoint that is open, if it found none. -/
theorem secure_intact (policy : Policy) {session : Session} (orderly : session.host.Orderly)
    (intact : session.host.store.Intact) :
    (session.act (secure policy)).2.host.store.Intact := by
  have passed : (session.act (Secure.reconcile policy)).2.host.Sound := by
    rw [Secure.host_reconcile]
    exact Secure.upholds_within _ (Reconcile.upholds_all policy) session ⟨orderly, intact⟩
  rw [(secure_of_halves session policy).2, Secure.host_backfill]
  split
  · exact (Secure.upholds_within _ (Backfill.upholds_all _) _ passed).intact
  · exact passed.intact

/-- The enlisted store under a savepoint of its own, behind a host that loses the creation of
the last record of the entity type and every call to go back to a savepoint. -/
def Reconcile.enlistedBehind : Host where
  store := enlisted.savepoint "migration"
  schedule := (Schedule.none.arm .create 2 false (.unreachable ["connection lost"])).arm
    .rollbackToSavepoint 0 true (.unreachable ["connection lost"])

theorem secure_intact_enlisted :
    let policy : Policy :=
      { classifier := .empty, config := { externalIds := { enabled := true } } }
    let session : Session := { host := Reconcile.enlistedBehind }
    let after := (session.act (secure policy)).2.host
    session.host.Orderly ∧ session.host.store.Intact ∧ after.store.Intact ∧
      after.failures = [.rollbackToSavepoint, .create] ∧
      session.host.store.externalId? ⟨"custom", "copy"⟩ = some ⟨"ir.model.access", 4⟩ ∧
      after.store.externalId? ⟨"custom", "copy"⟩ = none := by
  have orderly : Reconcile.enlistedBehind.Orderly := fun _ => .refl _
  have intact : Reconcile.enlistedBehind.store.Intact := by decide +kernel
  refine ⟨orderly, intact, secure_intact _ orderly intact, ?_⟩
  -- Sorting by insertion gives the same lists and can be evaluated here.
  have sorts (ids : List Int) : ids.mergeSort (fun first second => first ≤ second) =
      ids.insertionSort (· ≤ ·) := List.mergeSort_eq_insertionSort (· ≤ ·) ids
  delta secure Secure.reconcile Reconcile.all Reconcile.entity Reconcile.entity.run
    Reconcile.records Reconcile.one Reconcile.record
  simp only [sorts]
  decide +kernel

end TenantGuard
