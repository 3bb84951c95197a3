import Mathlib.Data.List.Forall2
import TenantGuard.Proofs.Engine.Accounts

/-!
# Keeping count

The store counts the calls that change records, and it hands out its ids one after the
other.  As long as nothing is taken back, both can be read off the outcomes: a pass makes
one call for every record it creates, writes or reduces, and the records it creates have
the ids that follow the last one.
-/

namespace TenantGuard

/-- The created records have the ids that follow `last`, in order, up to the one that was
handed out last. -/
inductive Numbered : RecordId → List RecordOutcome → RecordId → Prop where
  | nil {last : RecordId} : Numbered last [] last
  | created {last final : RecordId} {outcomes : List RecordOutcome}
      (rest : Numbered (last + 1) outcomes final) :
      Numbered last (.created (last + 1) :: outcomes) final
  | other {last final : RecordId} {outcome : RecordOutcome} {outcomes : List RecordOutcome}
      (notCreated : outcome.isCreated = false) (rest : Numbered last outcomes final) :
      Numbered last (outcome :: outcomes) final

/-- Whether copies were removed. -/
def RecordOutcome.isReduced (outcome : RecordOutcome) : Bool :=
  !outcome.removed.isEmpty

/-- The store has counted the changes that the outcomes tell. -/
structure Tallied (before : Store) (outcomes : List RecordOutcome) (after : Store) : Prop where
  numbered : Numbered before.lastId outcomes after.lastId
  creates : after.counts.creates =
    before.counts.creates + outcomes.countP RecordOutcome.isCreated
  writes : after.counts.writes = before.counts.writes + outcomes.countP RecordOutcome.isUpdated
  unlinks : after.counts.unlinks =
    before.counts.unlinks + outcomes.countP RecordOutcome.isReduced

theorem Numbered.append {last between final : RecordId} {first second : List RecordOutcome}
    (numbered : Numbered last first between) (numberedRest : Numbered between second final) :
    Numbered last (first ++ second) final := by
  induction numbered with
  | nil => exact numberedRest
  | created _ ih => exact .created (ih numberedRest)
  | other notCreated _ ih => exact .other notCreated (ih numberedRest)

/-- Where records were created at the same places of two lists, their ids are as far apart
as the last ones before. -/
theorem Numbered.alike {last lastToo final finalToo offset : RecordId}
    {first second : List RecordOutcome} (numbered : Numbered last first final)
    (numberedToo : Numbered lastToo second finalToo) (distance : lastToo = last + offset)
    (alike : List.Forall₂ (fun outcome other => outcome.isCreated = other.isCreated)
      first second) :
    List.Forall₂ (fun outcome other => ∀ id, outcome = .created id ↔ other = .created (id + offset))
      first second := by
  induction alike generalizing last lastToo with
  | nil => exact .nil
  | cons same _ ih =>
      cases numbered with
      | created rest =>
          cases numberedToo with
          | created restToo =>
              have next : lastToo + 1 = last + 1 + offset := by
                rw [distance, Int.add_right_comm]
              refine .cons (fun id => ?_) (ih rest restToo next)
              rw [RecordOutcome.created.injEq, RecordOutcome.created.injEq, next]
              exact (Int.add_left_inj offset).symm
          | other notCreated =>
              rw [← same] at notCreated
              cases notCreated
      | other notCreated rest =>
          cases numberedToo with
          | created =>
              rw [same] at notCreated
              cases notCreated
          | other notCreatedToo restToo =>
              refine .cons (fun id => ?_) (ih rest restToo distance)
              constructor
              · rintro rfl
                cases notCreated
              · rintro rfl
                cases notCreatedToo

/-- Where the same is found under the keys of two lists, they create the same records, with
ids that are as far apart as the last ones before. -/
theorem Accounted.created_alike {first second : List SettledRecord}
    {before after beforeToo afterToo : Store} {final finalToo offset : RecordId}
    (distance : beforeToo.lastId = before.lastId + offset)
    (sameFound : List.Forall₂ (fun entry other : SettledRecord =>
      before.matching entry.1 = beforeToo.matching other.1) first second)
    (accounted : Accounted first before after)
    (accountedToo : Accounted second beforeToo afterToo)
    (numbered : Numbered before.lastId (first.map (·.2)) final)
    (numberedToo : Numbered beforeToo.lastId (second.map (·.2)) finalToo) :
    List.Forall₂ (fun entry other : SettledRecord =>
      ∀ id, entry.2 = .created id ↔ other.2 = .created (id + offset)) first second := by
  have alike : List.Forall₂ (fun entry other : SettledRecord =>
      entry.2.isCreated = other.2.isCreated) first second := by
    rw [List.forall₂_iff_zip] at sameFound ⊢
    refine ⟨sameFound.1, ?_⟩
    intro entry other paired
    obtain ⟨listed, listedToo⟩ := List.of_mem_zip paired
    rw [Bool.eq_iff_iff, (accounted.leaves entry listed).isCreated_iff,
      (accountedToo.leaves other listedToo).isCreated_iff, sameFound.2 paired]
  have sameIds := numbered.alike numberedToo distance
    (by rwa [List.forall₂_map_left_iff, List.forall₂_map_right_iff])
  rwa [List.forall₂_map_left_iff, List.forall₂_map_right_iff] at sameIds

namespace Tallied

variable {before between after : Store} {first second : List RecordOutcome}

theorem nil (same : before.SameRecords after) : Tallied before [] after where
  numbered := by
    rw [same.lastId]
    exact .nil
  creates := by rw [same.counts]; rfl
  writes := by rw [same.counts]; rfl
  unlinks := by rw [same.counts]; rfl

theorem append (firstTallied : Tallied before first between)
    (secondTallied : Tallied between second after) : Tallied before (first ++ second) after where
  numbered := firstTallied.numbered.append secondTallied.numbered
  creates := by
    rw [secondTallied.creates, firstTallied.creates, List.countP_append, Nat.add_assoc]
  writes := by
    rw [secondTallied.writes, firstTallied.writes, List.countP_append, Nat.add_assoc]
  unlinks := by
    rw [secondTallied.unlinks, firstTallied.unlinks, List.countP_append, Nat.add_assoc]

/-- Only the ids and the counters matter. -/
theorem congr {before' after' : Store} (tallied : Tallied before first after)
    (sameBefore : before'.SameRecords before) (sameAfter : after.SameRecords after') :
    Tallied before' first after' := by
  have both := ((Tallied.nil sameBefore).append tallied).append (.nil sameAfter)
  rw [List.nil_append, List.append_nil] at both
  exact both

end Tallied

namespace DesiredRecord

variable {desired : DesiredRecord} {before after : Store}

/-- A reduction is counted if it removes anything. -/
theorem Merges.tallied {kept : RecordId} {copies : List RecordId}
    (merges : desired.Merges before kept copies after) :
    Tallied before [.unchanged kept copies] after := by
  rw [merges.left]
  split
  next alone =>
    rw [alone]
    exact ⟨.other rfl .nil, rfl, rfl, rfl⟩
  next several =>
    have reduced : (RecordOutcome.unchanged kept copies).isReduced = true := by
      simpa [RecordOutcome.isReduced, RecordOutcome.removed] using several
    refine ⟨.other rfl .nil, rfl, rfl, ?_⟩
    rw [List.countP_singleton, reduced]
    rfl

theorem Settles.tallied {outcome : RecordOutcome}
    (settles : desired.Settles before outcome after) : Tallied before [outcome] after := by
  cases settles with
  | created missing creates =>
      obtain ⟨rfl, rfl⟩ := Store.create_eq_ok creates
      exact ⟨.created .nil, rfl, rfl, rfl⟩
  | conflicting => exact ⟨.other rfl .nil, rfl, rfl, rfl⟩
  | unchanged merges => exact merges.tallied
  | updated merges differ writes =>
      have tallied := merges.tallied
      obtain ⟨current, _, rfl⟩ := Store.write_eq_ok writes
      refine ⟨?_, tallied.creates, ?_, tallied.unlinks⟩
      · cases tallied.numbered with
        | other _ rest => exact .other rfl rest
      · exact congrArg (· + 1) tallied.writes

theorem Handles.tallied {policy : Policy} {result : RecordReport × Option IdentifierCollision}
    (handles : desired.Handles policy before result after) :
    Tallied before [result.1.outcome] after := by
  obtain ⟨between, settles, identifies⟩ := handles.steps
  exact settles.tallied.congr (.refl _) identifies.sameRecords

end DesiredRecord

namespace Reconcile

theorem cumulative_tallied (policy : Policy) :
    Cumulative policy fun list _ before after =>
      Tallied before (list.map (·.2)) after where
  idle := fun _ _ => .nil (.withSavepoints _ _)
  handled := fun handles _ _ => handles.tallied
  append := by
    intro first second _ _ before between after tallied talliedRest _
    rw [List.map_append]
    exact tallied.append talliedRest

end Reconcile

end TenantGuard
