import TenantGuard.Engine.Outcome

/-!
# Totals of a run

A summary adds up what became of single records.  Adding one record after the other,
and one entity type after the other, comes to counting the outcomes of all records
at once and listing their conflicts in order.
-/

namespace TenantGuard

namespace RecordOutcome

def isCreated : RecordOutcome → Bool
  | .created _ => true
  | _ => false

def isUpdated : RecordOutcome → Bool
  | .updated _ _ => true
  | _ => false

def isUnchanged : RecordOutcome → Bool
  | .unchanged _ _ => true
  | _ => false

def conflict? : RecordOutcome → Option Conflict
  | .conflict conflicting => some conflicting
  | _ => none

end RecordOutcome

namespace Summary

/-- What the outcomes of some records add to the totals. -/
structure Adds (before : Summary) (outcomes : List RecordOutcome) (after : Summary) : Prop where
  created : after.created = before.created + outcomes.countP RecordOutcome.isCreated
  updated : after.updated = before.updated + outcomes.countP RecordOutcome.isUpdated
  unchanged : after.unchanged = before.unchanged + outcomes.countP RecordOutcome.isUnchanged
  duplicatesRemoved : after.duplicatesRemoved =
    before.duplicatesRemoved + (outcomes.flatMap RecordOutcome.removed).length
  conflicts : after.conflicts = before.conflicts ++ outcomes.filterMap RecordOutcome.conflict?

theorem Adds.nil (summary : Summary) : summary.Adds [] summary where
  created := rfl
  updated := rfl
  unchanged := rfl
  duplicatesRemoved := rfl
  conflicts := (List.append_nil _).symm

theorem Adds.append {before between after : Summary} {first second : List RecordOutcome}
    (addsFirst : before.Adds first between) (addsSecond : between.Adds second after) :
    before.Adds (first ++ second) after where
  created := by rw [addsSecond.created, addsFirst.created, List.countP_append, Nat.add_assoc]
  updated := by rw [addsSecond.updated, addsFirst.updated, List.countP_append, Nat.add_assoc]
  unchanged := by
    rw [addsSecond.unchanged, addsFirst.unchanged, List.countP_append, Nat.add_assoc]
  duplicatesRemoved := by
    rw [addsSecond.duplicatesRemoved, addsFirst.duplicatesRemoved, List.flatMap_append,
      List.length_append, Nat.add_assoc]
  conflicts := by
    rw [addsSecond.conflicts, addsFirst.conflicts, List.filterMap_append, List.append_assoc]

theorem adds_count (summary : Summary) (report : RecordReport) :
    summary.Adds [report.outcome] (summary.count report) := by
  have removed : [report.outcome].flatMap RecordOutcome.removed = report.outcome.removed :=
    List.append_nil _
  have counted : summary.duplicatesRemoved + report.outcome.removed.length =
      summary.duplicatesRemoved +
        ([report.outcome].flatMap RecordOutcome.removed).length := by
    rw [removed]
  rw [count]
  revert counted
  cases report.outcome with
  | created | updated | unchanged =>
      intro counted
      exact ⟨rfl, rfl, rfl, counted, (List.append_nil _).symm⟩
  | conflict =>
      intro counted
      exact ⟨rfl, rfl, rfl, counted, rfl⟩

theorem adds_foldl_count (summary : Summary) (reports : List RecordReport) :
    summary.Adds (reports.map (·.outcome)) (reports.foldl count summary) := by
  induction reports generalizing summary with
  | nil => exact .nil summary
  | cons report reports ih => exact (adds_count summary report).append (ih _)

theorem adds_absorb (summary : Summary) (outcome : EntityOutcome) :
    summary.Adds (outcome.records.map (·.outcome)) (summary.absorb outcome) := by
  have adds := adds_foldl_count summary outcome.records
  exact ⟨adds.created, adds.updated, adds.unchanged, adds.duplicatesRemoved, adds.conflicts⟩

/-- The totals of some entity types are those of all their records. -/
theorem adds_foldl_absorb (summary : Summary) (outcomes : List EntityOutcome) :
    summary.Adds ((outcomes.flatMap (·.records)).map (·.outcome))
      (outcomes.foldl absorb summary) := by
  induction outcomes generalizing summary with
  | nil => exact .nil summary
  | cons outcome outcomes ih =>
      rw [List.flatMap_cons, List.map_append]
      exact (adds_absorb summary outcome).append (ih _)

/-- Counting records touches neither the failures nor the collisions nor the outcomes, and
it does not look up another manager group. -/
theorem foldl_count_rest (summary : Summary) (reports : List RecordReport) :
    (reports.foldl count summary).failures = summary.failures ∧
      (reports.foldl count summary).collisions = summary.collisions ∧
      (reports.foldl count summary).outcomes = summary.outcomes ∧
      (reports.foldl count summary).managerGroup = summary.managerGroup := by
  induction reports generalizing summary with
  | nil => exact ⟨rfl, rfl, rfl, rfl⟩
  | cons report reports ih =>
      have once : (summary.count report).failures = summary.failures ∧
          (summary.count report).collisions = summary.collisions ∧
          (summary.count report).outcomes = summary.outcomes ∧
          (summary.count report).managerGroup = summary.managerGroup := by
        rw [count]
        cases report.outcome with
        | created | updated | unchanged | conflict => exact ⟨rfl, rfl, rfl, rfl⟩
      obtain ⟨failures, collisions, listed, group⟩ := once
      rw [← failures, ← collisions, ← listed, ← group]
      exact ih (summary.count report)

/-- Taking in some entity types adds their failures and their collisions and lists their
outcomes, in order, and keeps the manager group. -/
theorem foldl_absorb_rest (summary : Summary) (outcomes : List EntityOutcome) :
    (outcomes.foldl absorb summary).failures =
        summary.failures ++ outcomes.flatMap (·.failures) ∧
      (outcomes.foldl absorb summary).collisions =
        summary.collisions ++ outcomes.flatMap (·.collisions) ∧
      (outcomes.foldl absorb summary).outcomes = summary.outcomes ++ outcomes ∧
      (outcomes.foldl absorb summary).managerGroup = summary.managerGroup := by
  induction outcomes generalizing summary with
  | nil =>
      exact ⟨(List.append_nil _).symm, (List.append_nil _).symm, (List.append_nil _).symm, rfl⟩
  | cons outcome outcomes ih =>
      obtain ⟨failures, collisions, listed, group⟩ := summary.foldl_count_rest outcome.records
      obtain ⟨failuresRest, collisionsRest, listedRest, groupRest⟩ := ih (summary.absorb outcome)
      rw [List.foldl_cons, List.flatMap_cons, List.flatMap_cons]
      refine ⟨?_, ?_, ?_, ?_⟩
      · rw [failuresRest, absorb, failures, List.append_assoc]
      · rw [collisionsRest, absorb, collisions, List.append_assoc]
      · rw [listedRest, absorb, listed, List.append_assoc, List.singleton_append]
      · rw [groupRest, absorb, group]

end Summary

end TenantGuard
