import TenantGuard.Proofs.Engine.Handling

/-!
# Lists of settled records

A list is settled if every record of it is, and if the records under other keys are
as they were.  Going through a settled list again finds every record as it was left
and changes none.
-/

namespace TenantGuard

/-- A desired record and what became of it. -/
abbrev SettledRecord := DesiredRecord × RecordOutcome

/-- The report of a settled record. -/
def SettledRecord.report (entry : SettledRecord) : RecordReport :=
  ⟨entry.1.kind, entry.1.name, entry.2⟩

/-- A record is under one of the keys of a list or under none. -/
theorem SettledRecord.under_key_or_none (list : List SettledRecord) (kind : RecordKind)
    (values : Values) :
    (∃ entry ∈ list, entry.1.kind = kind ∧ entry.1.matched values) ∨
      ∀ entry ∈ list, entry.1.kind = kind → ¬ entry.1.matched values := by
  by_cases underKey : ∃ entry ∈ list, entry.1.kind = kind ∧ entry.1.matched values
  · exact .inl underKey
  · right
    intro entry listed sameKind matched
    exact underKey ⟨entry, listed, sameKind, matched⟩

/-- Every record of the list has been settled, and the records under keys apart from
all of theirs are as they were. -/
structure AllSettled (list : List SettledRecord) (before after : Store) : Prop where
  settled : ∀ entry ∈ list,
    entry.1.Settled (before.matching entry.1) entry.2 (after.matching entry.1)
  others : ∀ other : DesiredRecord, (∀ entry ∈ list, entry.1.Apart other) →
    after.matching other = before.matching other

namespace DesiredRecord

variable {desired : DesiredRecord} {before after : Store}

theorem Settles.sameSetting {outcome : RecordOutcome}
    (settles : desired.Settles before outcome after) : before.SameSetting after := by
  cases settles with
  | created missing creates =>
      have created := (Call.create desired.kind desired.values).run_sameSetting before
      rw [Call.run, creates] at created
      exact created
  | conflicting => exact .refl _
  | unchanged merges => exact merges.sameSetting
  | @updated between _ kept _ merges differ writes =>
      have written := (Call.write desired.kind kept
        (desired.changesOf (before.matching desired))).run_sameSetting between
      rw [Call.run, writes] at written
      exact merges.sameSetting.trans written

theorem Identifies.sameSetting {settings : ExternalIdSettings} {id : Option RecordId}
    {collision : Option IdentifierCollision}
    (identifies : desired.Identifies settings id before collision after) :
    before.SameSetting after := by
  cases identifies with
  | registered => exact ⟨rfl, rfl, rfl, rfl, Int.le_refl _⟩
  | nobody | disabled | existing | taken => exact .refl _

theorem Handles.sameSetting {policy : Policy}
    {result : RecordReport × Option IdentifierCollision}
    (handles : desired.Handles policy before result after) : before.SameSetting after := by
  obtain ⟨between, settles, identifies⟩ := handles.steps
  exact settles.sameSetting.trans identifies.sameSetting

theorem Merges.wellFormed {kept : RecordId} {copies : List RecordId}
    (merges : desired.Merges before kept copies after) (formed : before.WellFormed) :
    after.WellFormed := by
  rw [merges.left]
  split
  · exact formed
  · exact formed.call (.unlink desired.kind copies)

theorem Settles.wellFormed {outcome : RecordOutcome}
    (settles : desired.Settles before outcome after) (formed : before.WellFormed) :
    after.WellFormed := by
  cases settles with
  | created missing creates =>
      have created := formed.call (.create desired.kind desired.values)
      rw [Call.run, creates] at created
      exact created
  | conflicting => exact formed
  | unchanged merges => exact merges.wellFormed formed
  | @updated _ _ kept _ merges differ writes =>
      have written := (merges.wellFormed formed).call
        (.write desired.kind kept (desired.changesOf (before.matching desired)))
      rw [Call.run, writes] at written
      exact written

theorem Identifies.wellFormed {settings : ExternalIdSettings} {id : Option RecordId}
    {collision : Option IdentifierCollision}
    (identifies : desired.Identifies settings id before collision after)
    (formed : before.WellFormed) : after.WellFormed := by
  cases identifies with
  | registered => exact formed.apply (.insertExternalId _ _)
  | nobody | disabled | existing | taken => exact formed

theorem Handles.wellFormed {policy : Policy}
    {result : RecordReport × Option IdentifierCollision}
    (handles : desired.Handles policy before result after) (formed : before.WellFormed) :
    after.WellFormed := by
  obtain ⟨between, settles, identifies⟩ := handles.steps
  exact identifies.wellFormed (settles.wellFormed formed)

end DesiredRecord

namespace Reconcile

variable {policy : Policy} {desired : List DesiredRecord} {before after : Store}
  {results : List (RecordReport × Option IdentifierCollision)}

theorem wellFormed_of_chain
    (chain : Chain (DesiredRecord.Handles policy) desired before results after)
    (formed : before.WellFormed) : after.WellFormed :=
  chain.invariant Store.WellFormed (fun handles => handles.wellFormed) formed

theorem sameSetting_of_chain
    (chain : Chain (DesiredRecord.Handles policy) desired before results after) :
    before.SameSetting after :=
  chain.invariant (fun reached => before.SameSetting reached)
    (fun handles same => same.trans handles.sameSetting) (.refl _)

/-- Going through a settled list again changes no record. -/
theorem sameRecords_of_chain {list : List SettledRecord} {start : Store}
    (chain : Chain (DesiredRecord.Handles policy) (list.map (·.1)) before results after)
    (coherent : ∀ entry ∈ list, entry.1.Coherent)
    (settled : ∀ entry ∈ list,
      entry.1.Settled (start.matching entry.1) entry.2 (before.matching entry.1)) :
    before.SameRecords after ∧
      results.map (·.1.outcome) = list.map (·.2.repeated) := by
  induction list generalizing before results with
  | nil =>
      cases chain
      exact ⟨.refl _, rfl⟩
  | cons entry list ih =>
      rw [List.forall_mem_cons] at coherent settled
      cases chain with
      | @cons _ _ _ handled _ result _ first rest =>
          obtain ⟨between, settles, identifies⟩ := first.steps
          obtain ⟨rfl, repeated⟩ := settled.1.again coherent.1 settles
          have same := identifies.sameRecords
          obtain ⟨sameRest, repeatedRest⟩ := ih rest coherent.2 (by
            intro other listed
            rw [same.matching]
            exact settled.2 other listed)
          refine ⟨same.trans sameRest, ?_⟩
          rw [List.map_cons, List.map_cons, repeated, repeatedRest]

end Reconcile

end TenantGuard
