import TenantGuard.Proofs.Engine.Accounts

/-!
# Refused writes

A store may refuse to write records about certain entity types.  Whether it refuses what
has to be written for a desired record depends on the records under its key and on nothing
else, and handling the records under other keys changes neither.

The work on a list therefore stops exactly where the store it starts from refuses something,
at the first such record and for the cause that the store has there.
-/

namespace TenantGuard

namespace DesiredRecord

variable {desired : DesiredRecord} {before after store other : Store} {outcome : RecordOutcome}
  {cause otherCause : StoreError}

/-- Nothing was refused of a record that was settled. -/
theorem Settles.not_refused (settles : desired.Settles before outcome after) :
    ¬ desired.Refused before cause := by
  intro refused
  cases refused with
  | create missing rejected =>
      cases settles with
      | created _ creates =>
          rw [Store.accepted_of_create creates] at rejected
          cases rejected
      | conflicting found => exact RecordTable.ne_empty_of_keys found missing
      | unchanged merges | updated merges =>
          exact RecordTable.ne_empty_of_keys merges.found missing
  | write listed stored agree differ rejected =>
      cases settles with
      | created missing => exact RecordTable.ne_empty_of_keys listed missing
      | conflicting found several disagree =>
          rw [listed, List.cons.injEq] at found
          exact disagree (agree (found.2 ▸ several))
      | unchanged _ same => exact differ same
      | updated merges _ writes =>
          obtain ⟨values, found, present⟩ := merges.present
          have sameList := merges.found
          rw [listed, List.cons.injEq] at sameList
          rw [sameList.1, found, Option.some.injEq] at stored
          have accepted := Store.accepted_of_write present writes
          rw [Store.rejectedModel?_congr merges.sameSetting.rejectedWrites, stored,
            rejected] at accepted
          cases accepted

theorem Handles.not_refused {policy : Policy}
    {result : RecordReport × Option IdentifierCollision}
    (handles : desired.Handles policy before result after) : ¬ desired.Refused before cause := by
  obtain ⟨between, settles, _⟩ := handles.steps
  exact settles.not_refused

/-- A store has one cause to refuse a record. -/
theorem Refused.unique (refused : desired.Refused store cause)
    (refusedToo : desired.Refused store otherCause) : cause = otherCause := by
  cases refused with
  | create missing rejected =>
      cases refusedToo with
      | create _ rejectedToo =>
          rw [rejected, Option.some.injEq] at rejectedToo
          rw [rejectedToo]
      | write listed => exact absurd missing (RecordTable.ne_empty_of_keys listed)
  | write listed stored agree differ rejected =>
      cases refusedToo with
      | create missing => exact absurd missing (RecordTable.ne_empty_of_keys listed)
      | write listedToo storedToo _ _ rejectedToo =>
          rw [listed, List.cons.injEq] at listedToo
          rw [← listedToo.1, stored, Option.some.injEq] at storedToo
          rw [← storedToo, rejected, Option.some.injEq] at rejectedToo
          rw [rejectedToo]

/-- Stores that hold the same records under a key, and reject the same ones there, refuse for
the same cause. -/
theorem Refused.congr (refused : desired.Refused store cause) (coherent : desired.Coherent)
    (sameFound : other.matching desired = store.matching desired)
    (sameRejected : ∀ values, desired.matched values →
      other.rejectedModel? desired.kind values = store.rejectedModel? desired.kind values) :
    desired.Refused other cause := by
  cases refused with
  | create missing rejected =>
      rw [← sameRejected _ coherent.matched_values] at rejected
      exact .create (sameFound.trans missing) rejected
  | write listed stored agree differ rejected =>
      have matched := (RecordTable.getElem?_matching_eq_some.mp stored).2
      rw [← sameRejected _ matched] at rejected
      rw [← sameFound] at listed stored agree differ
      exact .write listed stored agree differ rejected

theorem refused_congr (coherent : desired.Coherent)
    (sameFound : other.matching desired = store.matching desired)
    (sameRejected : ∀ values, desired.matched values →
      other.rejectedModel? desired.kind values = store.rejectedModel? desired.kind values) :
    desired.Refused other cause ↔ desired.Refused store cause := by
  constructor
  · intro refused
    exact refused.congr coherent sameFound.symm fun values matched =>
      (sameRejected values matched).symm
  · intro refused
    exact refused.congr coherent sameFound sameRejected

/-- The first record of a list of which the store refuses something, and why. -/
def FirstRefused (list : List DesiredRecord) (store : Store) (cause : StoreError) : Prop :=
  ∃ done broken rest, list = done ++ broken :: rest ∧
    (∀ record ∈ done, ∀ other, ¬ record.Refused store other) ∧ broken.Refused store cause

variable {list : List DesiredRecord}

theorem FirstRefused.refused (first : FirstRefused list store cause) :
    ∃ record ∈ list, record.Refused store cause := by
  obtain ⟨done, broken, rest, rfl, _, refused⟩ := first
  exact ⟨broken, List.mem_append_right _ List.mem_cons_self, refused⟩

/-- Stores that refuse the same refuse the same record first. -/
theorem FirstRefused.congr (first : FirstRefused list store cause)
    (alike : ∀ record ∈ list, ∀ cause, record.Refused other cause ↔ record.Refused store cause) :
    FirstRefused list other cause := by
  obtain ⟨done, broken, rest, rfl, accepted, refused⟩ := first
  rw [List.forall_mem_append, List.forall_mem_cons] at alike
  refine ⟨done, broken, rest, rfl, ?_, (alike.2.1 cause).mpr refused⟩
  intro record listed cause
  rw [alike.1 record listed]
  exact accepted record listed cause

theorem FirstRefused.unique (first : FirstRefused list store cause)
    (second : FirstRefused list store otherCause) : cause = otherCause := by
  obtain ⟨done, broken, rest, split, accepted, refused⟩ := first
  obtain ⟨doneToo, brokenToo, restToo, splitToo, acceptedToo, refusedToo⟩ := second
  -- If one of the two lists went further, it would contain what is refused there.
  obtain ⟨more, rfl, next⟩ | ⟨more, rfl, next⟩ :=
    List.append_eq_append_iff.mp (split.symm.trans splitToo)
  · cases more with
    | nil =>
        cases next
        exact refused.unique refusedToo
    | cons =>
        cases next
        exact absurd refused (acceptedToo _ (List.mem_append_right _ List.mem_cons_self) _)
  · cases more with
    | nil =>
        cases next
        exact refused.unique refusedToo
    | cons =>
        cases next
        exact absurd refusedToo (accepted _ (List.mem_append_right _ List.mem_cons_self) _)

end DesiredRecord

namespace Reconcile

open DesiredRecord

variable {policy : Policy} {desired : List DesiredRecord} {before after : Store}
  {results : List (RecordReport × Option IdentifierCollision)}

/-- What the store refuses of a record is the same after the records before it have been
handled. -/
theorem refused_iff_of_chain {done rest : List DesiredRecord} {record : DesiredRecord}
    (chain : Chain (DesiredRecord.Handles policy) done before results after)
    (coherent : ∀ other ∈ done ++ record :: rest, other.Coherent)
    (apart : (done ++ record :: rest).Pairwise Apart) (formed : before.WellFormed)
    (cause : StoreError) : record.Refused after cause ↔ record.Refused before cause := by
  rw [List.forall_mem_append, List.forall_mem_cons] at coherent
  rw [List.pairwise_append] at apart
  obtain ⟨list, sameDesired, _, accounted⟩ :=
    (cumulative_accounted policy).of_chain chain coherent.1 apart.1 formed
  have sameFound : after.matching record = before.matching record := by
    apply accounted.matching_of_apart
    intro entry listed
    apply apart.2.2 _ _ record List.mem_cons_self
    rw [← sameDesired]
    exact List.mem_map_of_mem listed
  exact refused_congr coherent.2.1 sameFound fun _ _ =>
    Store.rejectedModel?_congr (sameSetting_of_chain chain).rejectedWrites

/-- If all records of a list were handled, the store refused none of them. -/
theorem not_refused_of_chain
    (chain : Chain (DesiredRecord.Handles policy) desired before results after)
    (coherent : ∀ record ∈ desired, record.Coherent) (apart : desired.Pairwise Apart)
    (formed : before.WellFormed) :
    ∀ record ∈ desired, ∀ cause, ¬ record.Refused before cause := by
  intro record listed cause
  obtain ⟨done, rest, _, _, _, _, _, rfl, _, earlier, handles, _⟩ := chain.at_input listed
  rw [← refused_iff_of_chain earlier coherent apart formed]
  exact handles.not_refused

/-- The list is stopped by the first record of which the store refuses something. -/
theorem Refuses.first {cause : StoreError} (refuses : Refuses policy desired before cause)
    (coherent : ∀ record ∈ desired, record.Coherent) (apart : desired.Pairwise Apart)
    (formed : before.WellFormed) : FirstRefused desired before cause := by
  obtain ⟨done, broken, rest, results, between, rfl, chain, refused⟩ := refuses
  rw [refused_iff_of_chain chain coherent apart formed] at refused
  refine ⟨done, broken, rest, rfl, ?_, refused⟩
  rw [List.forall_mem_append] at coherent
  rw [List.pairwise_append] at apart
  exact not_refused_of_chain chain coherent.1 apart.1 formed

/-- On a host that loses no call, an entity type of which nothing is refused is brought to
an end.  Another one is given up for the first refusal, and leaves nothing behind. -/
theorem EntityRun.finished_or_refused {start outcome : EntityOutcome} {before after : Host}
    (run : EntityRun policy start desired before outcome after)
    (reliable : ∀ method, ¬ before.Loses method)
    (coherent : ∀ record ∈ desired, record.Coherent) (apart : desired.Pairwise Apart)
    (formed : before.store.WellFormed) :
    ((∀ record ∈ desired, ∀ cause, ¬ record.Refused before.store cause) ∧
      outcome = { start with records := outcome.records, collisions := outcome.collisions }) ∨
    ∃ cause, FirstRefused desired before.store cause ∧ after.store.data = before.store.data ∧
      outcome = { start with
        failures := start.failures ++
          [⟨start.entity, .store, (EngineError.store cause).message⟩] } := by
  have opened := formed.call (.savepoint entitySavepoint)
  have sameRefused : ∀ record ∈ desired, ∀ cause,
      record.Refused (before.store.savepoint entitySavepoint) cause ↔
        record.Refused before.store cause := by
    intro record listed cause
    exact refused_congr (coherent record listed) rfl fun _ _ => rfl
  cases run with
  | finished chain left =>
      left
      refine ⟨?_, rfl⟩
      intro record listed cause
      rw [← sameRefused record listed]
      exact not_refused_of_chain chain coherent apart opened record listed cause
  | rolledBack obstructs breaks left =>
      right
      rcases obstructs with ⟨method, lost⟩ | ⟨cause, rfl, refuses⟩
      · exact absurd lost (reliable method)
      · have first := (refuses.first coherent apart opened).congr fun record listed cause =>
          (sameRefused record listed cause).symm
        exact ⟨cause, first, by rw [left], rfl⟩
  | unopened lost | unclosed lost | abandoned lost => exact absurd lost (reliable _)

end Reconcile

end TenantGuard
