import TenantGuard.Proofs.Engine.Accounts
import TenantGuard.Proofs.Engine.Securing

/-!
# Records that are spared

A run works on the records under the keys of desired records.  Every other record, and
every archived one, is as it was when the run ends, whichever calls fail and whatever is
taken back.  A record is removed only as a copy: it was not the first under its key, and
all the records under that key agreed.

What was brought to an end is accounted for record by record, and an interrupted reduction
spares the others as well.  From there the proof follows the engine upwards: since no record
is under two keys, the layers can be put one behind the other.
-/

namespace TenantGuard

/-- A record that is a copy of the first one under the key. -/
structure DesiredRecord.Redundant (desired : DesiredRecord) (found : RecordTable)
    (id : RecordId) : Prop where
  listed : id ∈ found
  behind : ∃ first ∈ found, first < id
  agree : desired.disagreements found = []

/-- What is done for the desired records of a list spares the others. -/
structure Spares (list : List DesiredRecord) (before after : Store) : Prop where
  others : ∀ other : DesiredRecord, (∀ desired ∈ list, desired.Apart other) →
    after.matching other = before.matching other
  kept : ∀ kind (id : RecordId) (values : Values),
    (before.data.records kind)[id]? = some values →
    (∀ desired ∈ list, desired.kind = kind → ¬ desired.matched values) →
    (after.data.records kind)[id]? = some values
  removed : ∀ kind (id : RecordId) (values : Values),
    (before.data.records kind)[id]? = some values → (after.data.records kind)[id]? = none →
    ∃ desired ∈ list, desired.kind = kind ∧ desired.Redundant (before.matching desired) id

namespace Spares

variable {list more first second : List DesiredRecord} {before between after : Store}

/-- Where the records are the same all of them are spared. -/
theorem of_records (same : ∀ kind, after.data.records kind = before.data.records kind) :
    Spares list before after where
  others := by
    intro other _
    rw [Store.matching, Store.matching, same]
  kept := by
    intro kind id values stored _
    rw [same, stored]
  removed := by
    intro kind id values stored missing
    rw [same, stored] at missing
    cases missing

theorem mono (spares : Spares list before after) (among : ∀ desired ∈ list, desired ∈ more) :
    Spares more before after where
  others := fun other apart => spares.others other fun desired listed =>
    apart desired (among desired listed)
  kept := fun kind id values stored unlike => spares.kept kind id values stored
    fun desired listed => unlike desired (among desired listed)
  removed := by
    intro kind id values stored missing
    obtain ⟨desired, listed, redundant⟩ := spares.removed kind id values stored missing
    exact ⟨desired, among desired listed, redundant⟩

/-- Work under keys that are apart can be done one after the other. -/
theorem append (firstSpares : Spares first before between)
    (secondSpares : Spares second between after)
    (apart : ∀ desired ∈ first, ∀ later ∈ second, desired.Apart later) :
    Spares (first ++ second) before after where
  others := by
    intro other apartFromAll
    rw [List.forall_mem_append] at apartFromAll
    rw [secondSpares.others other apartFromAll.2, firstSpares.others other apartFromAll.1]
  kept := by
    intro kind id values stored unlike
    rw [List.forall_mem_append] at unlike
    apply secondSpares.kept kind id values _ unlike.2
    exact firstSpares.kept kind id values stored unlike.1
  removed := by
    intro kind id values stored missing
    cases reached : (between.data.records kind)[id]? with
    | none =>
        obtain ⟨desired, listed, redundant⟩ := firstSpares.removed kind id values stored reached
        exact ⟨desired, List.mem_append_left _ listed, redundant⟩
    | some _ =>
        obtain ⟨desired, listed, sameKind, redundant⟩ :=
          secondSpares.removed kind id _ reached missing
        -- The first part of the work did not show under the key of the second.
        rw [firstSpares.others desired fun earlier inFirst =>
          apart earlier inFirst desired listed] at redundant
        exact ⟨desired, List.mem_append_right _ listed, sameKind, redundant⟩

/-- Only the records of the stores matter. -/
theorem congr {before' after' : Store} (spares : Spares list before after)
    (sameBefore : ∀ kind, before.data.records kind = before'.data.records kind)
    (sameAfter : ∀ kind, after'.data.records kind = after.data.records kind) :
    Spares list before' after' := by
  have fromBefore : Spares [] before' before := .of_records sameBefore
  have toAfter : Spares [] after after' := .of_records sameAfter
  have spared := (fromBefore.append spares (by simp)).append toAfter (by simp)
  rw [List.nil_append, List.append_nil] at spared
  exact spared

end Spares

namespace DesiredRecord

variable {desired : DesiredRecord} {before after : Store} {kept id : RecordId}
  {copies : List RecordId}

/-- The records behind the first of those that agree are redundant. -/
theorem redundant_of_mem_copies {found : RecordTable} (listed : found.keys = kept :: copies)
    (agree : copies ≠ [] → desired.disagreements found = []) (copied : id ∈ copies) :
    desired.Redundant found id where
  listed := by
    rw [← Std.ExtTreeMap.mem_keys, listed]
    exact List.mem_cons_of_mem _ copied
  behind := by
    have ordered := found.ascending_keys
    rw [listed, List.pairwise_cons] at ordered
    refine ⟨kept, ?_, ordered.1 id copied⟩
    rw [← Std.ExtTreeMap.mem_keys, listed]
    exact List.mem_cons_self
  agree := agree (List.ne_nil_of_mem copied)

/-- What is removed from under a key was redundant there. -/
theorem Leaves.redundant {last : RecordId} {found left : RecordTable} {outcome : RecordOutcome}
    (leaves : desired.Leaves last found outcome left) (removed : id ∈ outcome.removed) :
    desired.Redundant found id := by
  cases leaves with
  | created | conflicting => cases removed
  | unchanged listed _ agree | updated listed _ agree =>
      exact redundant_of_mem_copies listed agree removed

end DesiredRecord

/-- Records that are accounted for were handled without touching the others. -/
theorem Accounted.spares {list : List SettledRecord} {before after : Store}
    (accounted : Accounted list before after) : Spares (list.map (·.1)) before after where
  others := by
    intro other apart
    rw [List.forall_mem_map] at apart
    exact accounted.matching_of_apart apart
  kept := by
    intro kind id values stored unlike
    rw [List.forall_mem_map] at unlike
    exact (accounted.rest kind id values unlike).mpr stored
  removed := by
    intro kind id values stored missing
    rcases SettledRecord.under_key_or_none list kind values with
      ⟨entry, listed, rfl, matched⟩ | unlike
    · have leaves := accounted.leaves entry listed
      refine ⟨entry.1, List.mem_map_of_mem listed, rfl, leaves.redundant ?_⟩
      rw [leaves.removed_iff, Store.matching, Store.matching, RecordTable.getElem?_matching,
        RecordTable.getElem?_matching, stored, missing, Option.filter_some, if_pos matched]
      exact ⟨Option.some_ne_none values, rfl⟩
    · have remains := (accounted.rest kind id values unlike).mpr stored
      rw [missing] at remains
      cases remains

namespace DesiredRecord

variable {desired : DesiredRecord} {before after : Store} {kept : RecordId}
  {copies : List RecordId}

/-- A reduction without the write that follows it spares the others as well. -/
theorem Merges.spares (merges : desired.Merges before kept copies after) :
    Spares [desired] before after where
  others := by
    intro other apart
    rw [merges.left]
    split
    · rfl
    · apply Store.matching_unlink_of_apart (apart desired (List.mem_singleton_self _))
      intro id copied
      exact (redundant_of_mem_copies merges.found merges.agree copied).listed
  kept := by
    intro kind id values stored unlike
    rw [merges.getElem?, if_neg, stored]
    rintro ⟨rfl, removed⟩
    have listed := (redundant_of_mem_copies merges.found merges.agree removed).listed
    exact unlike desired (List.mem_singleton_self _) rfl
      (Store.matched_of_mem_matching listed stored)
  removed := by
    intro kind id values stored missing
    rw [merges.getElem?, stored] at missing
    split at missing
    next removed =>
      exact ⟨desired, List.mem_singleton_self _, removed.1,
        redundant_of_mem_copies merges.found merges.agree removed.2⟩
    next => cases missing

theorem Interrupted.spares (coherent : desired.Coherent) (formed : before.WellFormed)
    (interrupted : desired.Interrupted before after) : Spares [desired] before after := by
  cases interrupted with
  | untouched => exact .of_records fun _ => rfl
  | merged merges => exact merges.spares
  | settled settles => exact (settles.accounted coherent formed).spares

end DesiredRecord

namespace Reconcile

variable {policy : Policy} {group : Option RecordId}

/-- A list of desired records of which some have been handled. -/
theorem spares_of_chain {desired : List DesiredRecord} {before after : Store}
    {results : List (RecordReport × Option IdentifierCollision)}
    (chain : Chain (DesiredRecord.Handles policy) desired before results after)
    (coherent : ∀ record ∈ desired, record.Coherent)
    (apart : desired.Pairwise DesiredRecord.Apart) (formed : before.WellFormed) :
    Spares desired before after := by
  obtain ⟨list, rfl, _, accounted⟩ :=
    (cumulative_accounted policy).of_chain chain coherent apart formed
  exact accounted.spares

/-- However far the work on a list came, it spared the records under none of its keys. -/
theorem Breaks.spares {desired : List DesiredRecord} {before after : Store}
    (breaks : Breaks policy desired before after)
    (coherent : ∀ record ∈ desired, record.Coherent)
    (apart : desired.Pairwise DesiredRecord.Apart) (formed : before.WellFormed) :
    Spares desired before after := by
  obtain ⟨done, broken, rest, results, between, rfl, chain, interrupted⟩ := breaks
  rw [List.forall_mem_append, List.forall_mem_cons] at coherent
  rw [List.pairwise_append] at apart
  have finished := spares_of_chain chain coherent.1 apart.1 formed
  have begun := interrupted.spares coherent.2.1 (wellFormed_of_chain chain formed)
  apply (finished.append begun _).mono
  · intro record listed
    rw [List.mem_append, List.mem_singleton] at listed
    rcases listed with inDone | isBroken
    · exact List.mem_append_left _ inDone
    · rw [isBroken]
      exact List.mem_append_right _ List.mem_cons_self
  · intro record inDone other isBroken
    rw [List.mem_singleton.mp isBroken]
    exact apart.2.2 record inDone broken List.mem_cons_self

/-- However it goes, an entity type spares the records under none of its keys. -/
theorem EntityRun.spares {start outcome : EntityOutcome} {desired : List DesiredRecord}
    {before after : Host} (run : EntityRun policy start desired before outcome after)
    (coherent : ∀ record ∈ desired, record.Coherent)
    (apart : desired.Pairwise DesiredRecord.Apart) (formed : before.store.WellFormed) :
    Spares desired before.store after.store := by
  have opened := formed.call (.savepoint entitySavepoint)
  cases run with
  | finished chain left =>
      apply (spares_of_chain chain coherent apart opened).congr
      · exact fun _ => rfl
      · rw [left]
        exact fun _ => rfl
  | unopened lost left =>
      rw [left]
      exact .of_records fun _ => rfl
  | unclosed lost chain =>
      exact (spares_of_chain chain coherent apart opened).congr (fun _ => rfl) fun _ => rfl
  | rolledBack hindered breaks left =>
      rw [left]
      exact .of_records fun _ => rfl
  | abandoned lost breaks =>
      exact (breaks.spares coherent apart opened).congr (fun _ => rfl) fun _ => rfl

theorem spares_of_reconciles {entityTypes : List EntityType} {outcomes : List EntityOutcome}
    {before after : Host}
    (chain : Chain (Reconciles policy group) entityTypes before outcomes after)
    (apart : (entityTypes.flatMap (policy.desiredRecords · group)).Pairwise DesiredRecord.Apart)
    (formed : before.store.WellFormed) :
    Spares (entityTypes.flatMap (policy.desiredRecords · group)) before.store after.store := by
  induction chain with
  | nil => exact .of_records fun _ => rfl
  | cons first rest ih =>
      rw [List.flatMap_cons, List.pairwise_append] at apart
      rw [List.flatMap_cons]
      have here := first.run.spares (fun _ => Policy.coherent_of_mem_desiredRecords) apart.1 formed
      have there := ih apart.2.1 (first.continues.wellFormed formed)
      exact here.append there apart.2.2

theorem PassRun.spares {summary : Summary} {before after : Host}
    (pass : PassRun policy before summary after) (formed : before.store.WellFormed) :
    Spares (policy.allDesired before.store) before.store after.store := by
  obtain ⟨start, outcomes, sameStore, _, chain, _⟩ := pass.steps
  rw [← sameStore] at chain formed ⊢
  exact spares_of_reconciles chain
    (policy.flatMap_desiredRecords_apart _ formed.securedTypes_distinct) formed

end Reconcile

namespace Secure

variable {policy : Policy} {before : Host} {after : Store}

theorem Passes.spares {summary : Summary} (passes : Passes policy before summary after)
    (formed : before.store.WellFormed) :
    Spares (policy.allDesired before.store) before.store after := by
  obtain ⟨opened, reached, saved, goesOn, pass, same⟩ := passes.steps
  have spared := pass.spares (goesOn.wellFormed formed)
  rw [Policy.allDesired_congr goesOn.setting] at spared
  apply spared.congr
  · rw [saved]
    exact fun _ => rfl
  · exact same.symm.records

/-- However it goes, a run spares the records under none of its keys. -/
theorem Runs.spares {report : Report} (runs : Runs policy before report after)
    (formed : before.store.WellFormed) :
    Spares (policy.allDesired before.store) before.store after := by
  obtain ⟨summary, missing, filled, failed, reached, reconciles, backfills, _⟩ := runs.steps
  have spared : Spares (policy.allDesired before.store) before.store reached.store := by
    cases reconciles with
    | passed passes | groupless passes => exact passes.spares formed
    | aborted hindered aborts =>
        cases aborts with
        | untouched data => exact .of_records fun kind => by rw [data]
        | unclosed passes => exact passes.spares formed
  exact spared.congr (fun _ => rfl) backfills.sameRecords.records

end Secure

/-- A run touches no record but those under a key.  Whichever calls fail, every record
that is archived or meets the key of no desired record of its kind keeps its id and its
values.  Every record is still there in the end, except for active ones under the key of
some desired record that stood behind another one there, where all the records under
that key agreed with it in all the desired fields. -/
theorem secure_spares (policy : Policy) {session : Session}
    (reachable : session.host.store.Reachable) (orderly : session.host.Orderly) :
    let before := session.host.store
    let after := (session.act (secure policy)).2.host.store
    ∀ (kind : RecordKind) (id : RecordId) (values : Values),
      (before.data.records kind)[id]? = some values →
      ((values.active = false ∨ ∀ desired ∈ policy.allDesired before, desired.kind = kind →
          Criterion.allHold desired.criteria values = false) →
        (after.data.records kind)[id]? = some values) ∧
      (id ∈ after.data.records kind ∨
        ∃ desired ∈ policy.allDesired before, desired.kind = kind ∧ values.active = true ∧
          Criterion.allHold desired.criteria values = true ∧
          (∃ first ∈ before.matching desired, first < id) ∧
          ∀ field ∈ desired.fields, ∀ (other : RecordId) (stored : Values),
            (before.matching desired)[other]? = some stored →
              stored[field]?.map FieldValue.normalized =
                values[field]?.map FieldValue.normalized) := by
  intro before after kind id values stored
  have runs : Secure.Runs policy session.host (session.act (secure policy)).1 after :=
    secure_yields orderly policy
  have spares := runs.spares reachable.wellFormed
  constructor
  · intro curated
    apply spares.kept kind id values stored
    intro desired wanted sameKind matched
    rw [DesiredRecord.matched, Bool.and_eq_true] at matched
    rcases curated with archived | unlike
    · simp [archived] at matched
    · simp [unlike desired wanted sameKind] at matched
  · by_cases present : id ∈ after.data.records kind
    · exact .inl present
    · right
      have missing := Std.ExtTreeMap.getElem?_eq_none present
      obtain ⟨desired, wanted, rfl, redundant⟩ := spares.removed kind id values stored missing
      have matched := Store.matched_of_mem_matching redundant.listed stored
      have found : (before.matching desired)[id]? = some values :=
        RecordTable.getElem?_matching_eq_some.mpr ⟨stored, matched⟩
      have agree := DesiredRecord.disagreements_eq_nil_iff.mp redundant.agree
      rw [DesiredRecord.matched, Bool.and_eq_true] at matched
      refine ⟨desired, wanted, rfl, matched.1, matched.2, redundant.behind, ?_⟩
      intro field listed other otherStored isFound
      exact agree field listed other id otherStored values isFound found

/-- A store in which the grant of the manager group is there once more, archived, beside
a rule written by hand. -/
def Store.curated : Store :=
  let grant : List (String × FieldValue) :=
    [("name", .text "res.partner - company manager"), ("model_id", .ref 1),
      ("group_id", .ref 2)]
  let rule : List (String × FieldValue) := [("name", .text "by hand"), ("model_id", .ref 1)]
  let operations : List Operation :=
    [.addEntityType "res.partner",
      .addGroup ⟨"multicompany_instead_of_multidatabase", "group_company_manager"⟩,
      .insertRecord .accessGrant (.ofList grant),
      .insertRecord .accessGrant (.ofList (("active", .bool false) :: grant)),
      .insertRecord .rule (.ofList rule)]
  operations.foldl Operation.apply {}

theorem Store.curated_reachable : curated.Reachable :=
  Reachable.empty.foldl _

/-- A host that holds the curated store and loses the first identifier. -/
def Host.curated : Host where
  store := .curated
  schedule := Schedule.none.arm .createExternalId 0 false (.unreachable ["connection lost"])

theorem secure_spares_curated :
    let policy : Policy := { classifier := .empty, config := {} }
    let session : Session := { host := .curated }
    let after := (session.act (secure policy)).2.host.store
    (∃ written, (Store.curated.data.records .rule)[(5 : Int)]? = some written ∧
      (after.data.records .rule)[(5 : Int)]? = some written) ∧
    (∃ archived, (Store.curated.data.records .accessGrant)[(4 : Int)]? = some archived ∧
      archived.active = false ∧
        (after.data.records .accessGrant)[(4 : Int)]? = some archived) ∧
    (3 : Int) ∈ after.data.records .accessGrant := by
  intro policy session after
  have spares := @secure_spares policy session Store.curated_reachable fun _ => .refl _
  refine ⟨?written, ?archived, ?first⟩
  case written =>
    have unlike : ∀ desired ∈ policy.allDesired Store.curated, desired.kind = .rule →
        (Store.curated.data.records .rule)[(5 : Int)]?.map
          (Criterion.allHold desired.criteria) = some false := by
      decide +kernel
    have present : (Store.curated.data.records .rule)[(5 : Int)]?.isSome := by decide +kernel
    obtain ⟨written, stored⟩ := Option.isSome_iff_exists.mp present
    simp only [stored, Option.map_some, Option.some.injEq] at unlike
    exact ⟨written, stored, (spares .rule 5 written stored).1 (.inr unlike)⟩
  case archived =>
    have marked : (Store.curated.data.records .accessGrant)[(4 : Int)]?.map Values.active =
        some false := by
      decide +kernel
    obtain ⟨archived, stored, notActive⟩ := Option.map_eq_some_iff.mp marked
    exact ⟨archived, stored, notActive,
      (spares .accessGrant 4 archived stored).1 (.inl notActive)⟩
  case first =>
    -- Its archived copy is not under the key, and nothing stands before it there.
    have leads : ∀ desired ∈ policy.allDesired Store.curated, desired.kind = .accessGrant →
        ∀ first ∈ (Store.curated.matching desired).keys, ¬ first < 3 := by
      decide +kernel
    have present : (Store.curated.data.records .accessGrant)[(3 : Int)]?.isSome := by
      decide +kernel
    obtain ⟨grant, stored⟩ := Option.isSome_iff_exists.mp present
    obtain remains | ⟨desired, wanted, sameKind, _, _, ⟨first, listed, behind⟩, _⟩ :=
      (spares .accessGrant 3 grant stored).2
    · exact remains
    · rw [← Std.ExtTreeMap.mem_keys] at listed
      exact absurd behind (leads desired wanted sameKind first listed)

end TenantGuard
