import TenantGuard.Proofs.Engine.Cumulative
import TenantGuard.Proofs.Engine.Leaves

/-!
# Accounting for the records

Records under no key of a list are as they were when the list has been settled.  The
records of a store are therefore accounted for, one by one, by what was found there and
what became of the list.

The list of a pass holds the records of the entity types that were not given up.  Only
where something could not be taken back are there changes that no list accounts for.
-/

namespace TenantGuard

/-- The list tells what is left under each of its keys, and nothing else changed. -/
structure Accounted (list : List SettledRecord) (before after : Store) : Prop where
  leaves : ∀ entry ∈ list, entry.1.Leaves before.lastId (before.matching entry.1) entry.2
    (after.matching entry.1)
  rest : ∀ kind (id : RecordId) (values : Values),
    (∀ entry ∈ list, entry.1.kind = kind → ¬ entry.1.matched values) →
    ((after.data.records kind)[id]? = some values ↔
      (before.data.records kind)[id]? = some values)
  lastId_le : before.lastId ≤ after.lastId

namespace Accounted

variable {list first second : List SettledRecord} {before between after : Store}

/-- Where the records are the same there is nothing to account for. -/
theorem of_records (same : ∀ kind, after.data.records kind = before.data.records kind)
    (lastId_le : before.lastId ≤ after.lastId) : Accounted [] before after where
  leaves := by simp
  rest := fun kind _ _ _ => by rw [same]
  lastId_le := lastId_le

theorem of_sameRecords (same : before.SameRecords after) : Accounted [] before after :=
  .of_records same.records (Int.le_of_eq same.lastId.symm)

/-- Under a key apart from those of the list the records are as they were. -/
theorem matching_of_apart (accounted : Accounted list before after) {other : DesiredRecord}
    (apart : ∀ entry ∈ list, entry.1.Apart other) :
    after.matching other = before.matching other := by
  apply Std.ExtTreeMap.ext_getElem?
  intro id
  apply Option.ext
  intro values
  rw [Store.matching, Store.matching, RecordTable.getElem?_matching_eq_some,
    RecordTable.getElem?_matching_eq_some]
  constructor
  · rintro ⟨stored, matched⟩
    refine ⟨(accounted.rest _ id values ?_).mp stored, matched⟩
    intro entry listed sameKind matchedToo
    exact apart entry listed sameKind values ⟨matchedToo, matched⟩
  · rintro ⟨stored, matched⟩
    refine ⟨(accounted.rest _ id values ?_).mpr stored, matched⟩
    intro entry listed sameKind matchedToo
    exact apart entry listed sameKind values ⟨matchedToo, matched⟩

/-- Records that are accounted for have been settled. -/
theorem allSettled (accounted : Accounted list before after)
    (coherent : ∀ entry ∈ list, entry.1.Coherent) : AllSettled list before after where
  settled := fun entry listed => (accounted.leaves entry listed).settled (coherent entry listed)
  others := fun _ apart => accounted.matching_of_apart apart

/-- Lists whose keys are apart are accounted for one after the other. -/
theorem append (firstAccounted : Accounted first before between)
    (secondAccounted : Accounted second between after)
    (apart : ∀ entry ∈ first, ∀ later ∈ second, entry.1.Apart later.1) :
    Accounted (first ++ second) before after where
  leaves := by
    intro entry membership
    rcases List.mem_append.mp membership with listed | later
    · rw [secondAccounted.matching_of_apart fun other inSecond =>
        (apart entry listed other inSecond).symm]
      exact firstAccounted.leaves entry listed
    · rw [← firstAccounted.matching_of_apart fun other inFirst => apart other inFirst entry later]
      exact (secondAccounted.leaves entry later).mono firstAccounted.lastId_le
  rest := by
    intro kind id values unlike
    rw [List.forall_mem_append] at unlike
    rw [secondAccounted.rest kind id values unlike.2, firstAccounted.rest kind id values unlike.1]
  lastId_le := Int.le_trans firstAccounted.lastId_le secondAccounted.lastId_le

/-- Only the records and the last id matter. -/
theorem congr {before' after' : Store} (accounted : Accounted list before after)
    (sameBefore : before'.SameRecords before) (sameAfter : after.SameRecords after') :
    Accounted list before' after' := by
  have both := ((of_sameRecords sameBefore).append accounted (by simp)).append
    (of_sameRecords sameAfter) (by simp)
  rw [List.nil_append, List.append_nil] at both
  exact both

end Accounted

namespace DesiredRecord

variable {desired : DesiredRecord} {before after : Store} {outcome : RecordOutcome}

theorem Settles.accounted (coherent : desired.Coherent) (formed : before.WellFormed)
    (settles : desired.Settles before outcome after) :
    Accounted [(desired, outcome)] before after where
  leaves := by
    intro entry membership
    rw [List.mem_singleton.mp membership]
    exact settles.leaves coherent
  rest := fun kind id values unlike => settles.getElem?_of_not_matched coherent formed
    (unlike (desired, outcome) (List.mem_singleton_self _))
  lastId_le := settles.sameSetting.lastId_le

theorem Handles.accounted {policy : Policy} {result : RecordReport × Option IdentifierCollision}
    (handles : desired.Handles policy before result after) (coherent : desired.Coherent)
    (formed : before.WellFormed) : Accounted [(desired, result.1.outcome)] before after := by
  obtain ⟨between, settles, identifies⟩ := handles.steps
  exact (settles.accounted coherent formed).congr (.refl _) identifies.sameRecords

end DesiredRecord

namespace Reconcile

theorem cumulative_accounted (policy : Policy) :
    Cumulative policy fun list _ before after => Accounted list before after where
  idle := fun _ _ => .of_records (fun _ => rfl) (Int.le_refl _)
  handled := fun handles coherent formed => handles.accounted coherent formed
  append := fun first second apart => first.append second apart

/-- Where the data are as they were there is nothing to account for. -/
theorem forgets_accounted :
    Account.Forgets fun list _ before after => Accounted list before after := by
  intro before after sameData idsGrow
  exact .of_records (fun _ => by rw [sameData]) idsGrow

/-- A pass is accounted for by the reports in its summary, unless something could not be
taken back.  Without a failure of the store the reports are those of all desired
records. -/
theorem PassRun.accounted {policy : Policy} {before after : Host} {summary : Summary}
    (pass : PassRun policy before summary after)
    (kept : ¬ before.Loses .rollbackToSavepoint ∨
      ∀ failure ∈ summary.failures, failure.kind ≠ .store)
    (formed : before.store.WellFormed) :
    ∃ list : List SettledRecord,
      (list.map (·.1)).Sublist (policy.allDesired before.store) ∧
      ((∀ failure ∈ summary.failures, failure.kind ≠ .store) →
        list.map (·.1) = policy.allDesired before.store) ∧
      summary.outcomes.flatMap (·.records) = list.map SettledRecord.report ∧
      Accounted list before.store after.store :=
  (cumulative_accounted policy).of_pass pass
    (kept.imp_left fun goesBack => ⟨forgets_accounted, goesBack⟩) formed

end Reconcile

end TenantGuard
