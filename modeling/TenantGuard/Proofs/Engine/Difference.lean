import Mathlib.Data.List.Nodup
import Mathlib.Data.List.Pairwise
import TenantGuard.Proofs.Engine.Accounts

/-!
# The difference that a pass makes

The records that a store gained, lost or had rewritten over a pass are the ones that the
summary names as created, removed and updated, each once.  Calls may fail on the way:
what was done for an entity type that was given up is neither in the store nor in the
summary.

A record that differs is under exactly one of the keys that were settled, before the pass
or after it.  Each outcome is told by the difference that it makes under its own key.
-/

namespace TenantGuard

/-- A record of a store, by its kind and its id. -/
abbrev RecordKey := RecordKind × RecordId

namespace Store

/-- The values of a record. -/
def record? (store : Store) (key : RecordKey) : Option Values :=
  (store.data.records key.1)[key.2]?

/-- Every record of a store, the rules first. -/
def recordKeys (store : Store) : List RecordKey :=
  [RecordKind.rule, RecordKind.accessGrant].flatMap fun kind =>
    (store.data.records kind).keys.map fun id => (kind, id)

/-- The records that were not there before. -/
def gained (before after : Store) : List RecordKey :=
  after.recordKeys.filter fun key => before.record? key = none

/-- The records that are not there any more. -/
def lost (before after : Store) : List RecordKey :=
  before.recordKeys.filter fun key => after.record? key = none

/-- The records that are still there, with other values. -/
def rewritten (before after : Store) : List RecordKey :=
  before.recordKeys.filter fun key =>
    after.record? key ≠ none ∧ after.record? key ≠ before.record? key

theorem mem_recordKeys {store : Store} {key : RecordKey} :
    key ∈ store.recordKeys ↔ store.record? key ≠ none := by
  obtain ⟨kind, id⟩ := key
  have listed : (kind, id) ∈ store.recordKeys ↔ id ∈ store.data.records kind := by
    cases kind <;> simp [recordKeys]
  rw [listed, record?, Std.ExtTreeMap.mem_iff_isSome_getElem?, Option.isSome_iff_ne_none]

theorem nodup_recordKeys (store : Store) : store.recordKeys.Nodup := by
  have nodup : ∀ kind : RecordKind,
      ((store.data.records kind).keys.map fun id => (kind, id)).Nodup := by
    intro kind
    exact Std.ExtTreeMap.nodup_keys.map fun _ _ same => (Prod.mk.inj same).2
  rw [recordKeys, List.nodup_flatMap]
  refine ⟨fun kind _ => nodup kind, ?_⟩
  rw [List.pairwise_pair]
  intro key inRules inGrants
  obtain ⟨_, _, rfl⟩ := List.mem_map.mp inRules
  obtain ⟨_, _, same⟩ := List.mem_map.mp inGrants
  cases same

variable {before after : Store} {key : RecordKey}

theorem mem_gained :
    key ∈ before.gained after ↔ before.record? key = none ∧ after.record? key ≠ none := by
  rw [gained, List.mem_filter, mem_recordKeys, decide_eq_true_eq, and_comm]

theorem mem_lost :
    key ∈ before.lost after ↔ before.record? key ≠ none ∧ after.record? key = none := by
  rw [lost, List.mem_filter, mem_recordKeys, decide_eq_true_eq]

theorem mem_rewritten :
    key ∈ before.rewritten after ↔ before.record? key ≠ none ∧ after.record? key ≠ none ∧
      after.record? key ≠ before.record? key := by
  rw [rewritten, List.mem_filter, mem_recordKeys, decide_eq_true_eq]

end Store

namespace RecordReport

/-- The record that the report names as created. -/
def created (report : RecordReport) : List RecordKey :=
  match report.outcome with
  | .created id => [(report.kind, id)]
  | .updated _ _ | .unchanged _ _ | .conflict _ => []

/-- The record that the report names as updated. -/
def updated (report : RecordReport) : List RecordKey :=
  match report.outcome with
  | .updated id _ => [(report.kind, id)]
  | .created _ | .unchanged _ _ | .conflict _ => []

/-- The records that the report names as removed. -/
def removed (report : RecordReport) : List RecordKey :=
  report.outcome.removed.map fun id => (report.kind, id)

variable {report : RecordReport} {kind : RecordKind} {id : RecordId}

theorem mem_created :
    (kind, id) ∈ report.created ↔ report.kind = kind ∧ report.outcome = .created id := by
  rw [created]
  cases report.outcome with
  | created => simp [eq_comm]
  | updated | unchanged | conflict => simp

theorem mem_updated :
    (kind, id) ∈ report.updated ↔
      report.kind = kind ∧ ∃ copies, report.outcome = .updated id copies := by
  rw [updated]
  cases report.outcome with
  | updated => simp [eq_comm]
  | created | unchanged | conflict => simp

theorem mem_removed :
    (kind, id) ∈ report.removed ↔ report.kind = kind ∧ id ∈ report.outcome.removed := by
  rw [removed, List.mem_map]
  constructor
  · rintro ⟨_, listed, same⟩
    cases same
    exact ⟨rfl, listed⟩
  · rintro ⟨rfl, listed⟩
    exact ⟨id, listed, rfl⟩

theorem nodup_created (report : RecordReport) : report.created.Nodup := by
  rw [created]
  cases report.outcome with
  | created => exact List.nodup_singleton _
  | updated | unchanged | conflict => exact List.nodup_nil

theorem nodup_updated (report : RecordReport) : report.updated.Nodup := by
  rw [updated]
  cases report.outcome with
  | updated => exact List.nodup_singleton _
  | created | unchanged | conflict => exact List.nodup_nil

theorem length_created (reports : List RecordReport) :
    (reports.flatMap created).length =
      (reports.map (·.outcome)).countP RecordOutcome.isCreated := by
  induction reports with
  | nil => rfl
  | cons report reports ih =>
      rw [List.flatMap_cons, List.length_append, ih, List.map_cons, List.countP_cons, created]
      cases report.outcome with
      | created => exact Nat.add_comm _ _
      | updated | unchanged | conflict => exact Nat.zero_add _

theorem length_updated (reports : List RecordReport) :
    (reports.flatMap updated).length =
      (reports.map (·.outcome)).countP RecordOutcome.isUpdated := by
  induction reports with
  | nil => rfl
  | cons report reports ih =>
      rw [List.flatMap_cons, List.length_append, ih, List.map_cons, List.countP_cons, updated]
      cases report.outcome with
      | updated => exact Nat.add_comm _ _
      | created | unchanged | conflict => exact Nat.zero_add _

theorem length_removed (reports : List RecordReport) :
    (reports.flatMap removed).length =
      ((reports.map (·.outcome)).flatMap RecordOutcome.removed).length := by
  rw [List.length_flatMap, List.flatMap_map, List.length_flatMap]
  simp only [removed, List.length_map]

end RecordReport

/-- Of the records under the same id only one can be under a key of the list. -/
theorem eq_of_matched {list : List SettledRecord}
    (apart : (list.map (·.1)).Pairwise DesiredRecord.Apart) {entry other : SettledRecord}
    (listed : entry ∈ list) (listedToo : other ∈ list) (sameKind : entry.1.kind = other.1.kind)
    {values : Values} (matched : entry.1.matched values) (matchedToo : other.1.matched values) :
    entry = other := by
  by_contra different
  rw [List.pairwise_map] at apart
  have symmetric : Std.Symm fun first second : SettledRecord => first.1.Apart second.1 :=
    ⟨fun _ _ => DesiredRecord.Apart.symm⟩
  exact apart.forall listed listedToo different sameKind values ⟨matched, matchedToo⟩

theorem Store.getElem?_matching {store : Store} {desired : DesiredRecord} {id : RecordId} :
    (store.matching desired)[id]? =
      (store.record? (desired.kind, id)).filter desired.matched :=
  RecordTable.getElem?_matching

/-- No record has an id above the last one. -/
theorem Store.WellFormed.le_of_record? {store : Store} (formed : store.WellFormed)
    {key : RecordKey} {values : Values} (stored : store.record? key = some values) :
    key.2 ≤ store.lastId :=
  formed.data key.1 key.2 (RecordTable.mem_of_stored stored)

theorem Store.matched_of_found {store : Store} {desired : DesiredRecord} {id : RecordId}
    {values : Values} (stored : store.record? (desired.kind, id) = some values)
    (found : (store.matching desired)[id]? ≠ none) : desired.matched values := by
  by_contra unlike
  rw [getElem?_matching, stored, Option.filter_some, if_neg unlike] at found
  exact found rfl

/-- Where all records under an id are under the key, the key shows them. -/
theorem Store.getElem?_matching_of_matched {store : Store} {desired : DesiredRecord}
    {id : RecordId}
    (matched : ∀ values, store.record? (desired.kind, id) = some values → desired.matched values) :
    (store.matching desired)[id]? = store.record? (desired.kind, id) := by
  rw [getElem?_matching]
  cases stored : store.record? (desired.kind, id) with
  | none => rfl
  | some values => rw [Option.filter_some, if_pos (matched values stored)]

theorem Store.found_of_matched {store : Store} {desired : DesiredRecord} {id : RecordId}
    {values : Values} (stored : store.record? (desired.kind, id) = some values)
    (matched : desired.matched values) : (store.matching desired)[id]? = some values := by
  rw [getElem?_matching, stored, Option.filter_some, if_pos matched]

namespace Accounted

variable {list : List SettledRecord} {before after : Store} {entry : SettledRecord}
  {kind : RecordKind} {id : RecordId}

/-- A record that is under a key in the end, and was there before, was under that key. -/
theorem found_before (accounted : Accounted list before after) (formed : before.WellFormed)
    (listed : entry ∈ list) {values : Values}
    (stored : before.record? (entry.1.kind, id) = some values)
    (found : (after.matching entry.1)[id]? ≠ none) : entry.1.matched values := by
  rcases (accounted.leaves entry listed).found_of_left found with fresh | foundBefore
  · exact absurd fresh (Int.not_lt.mpr (formed.le_of_record? stored))
  · exact Store.matched_of_found stored foundBefore

/-- A record that was under a key, and is still there in the end, is under that key. -/
theorem found_after (accounted : Accounted list before after)
    (apart : (list.map (·.1)).Pairwise DesiredRecord.Apart) (formed : before.WellFormed)
    (listed : entry ∈ list) {values : Values}
    (found : (before.matching entry.1)[id]? ≠ none)
    (stored : after.record? (entry.1.kind, id) = some values) : entry.1.matched values := by
  obtain ⟨old, present⟩ := Option.ne_none_iff_exists'.mp found
  obtain ⟨storedBefore, matched⟩ := RecordTable.getElem?_matching_eq_some.mp present
  rcases SettledRecord.under_key_or_none list entry.1.kind values with
    ⟨other, listedToo, sameKind, matchedAfter⟩ | unlike
  · rw [← sameKind] at stored storedBefore
    have foundToo : (after.matching other.1)[id]? ≠ none := by
      simp [Store.found_of_matched stored matchedAfter]
    have matchedToo := accounted.found_before formed listedToo storedBefore foundToo
    rw [← eq_of_matched apart listedToo listed sameKind matchedToo matched]
    exact matchedAfter
  · have same := (accounted.rest entry.1.kind id values unlike).mp stored
    rw [storedBefore, Option.some.injEq] at same
    rw [← same]
    exact matched

/-- A record that is under a key, before or after, is under it both times, if it is
there. -/
theorem record?_of_found (accounted : Accounted list before after)
    (apart : (list.map (·.1)).Pairwise DesiredRecord.Apart) (formed : before.WellFormed)
    (listed : entry ∈ list)
    (found : (before.matching entry.1)[id]? ≠ none ∨ (after.matching entry.1)[id]? ≠ none) :
    (before.matching entry.1)[id]? = before.record? (entry.1.kind, id) ∧
      (after.matching entry.1)[id]? = after.record? (entry.1.kind, id) := by
  constructor
  · apply Store.getElem?_matching_of_matched
    intro values stored
    rcases found with inBefore | inAfter
    · exact Store.matched_of_found stored inBefore
    · exact accounted.found_before formed listed stored inAfter
  · apply Store.getElem?_matching_of_matched
    intro values stored
    rcases found with inBefore | inAfter
    · exact accounted.found_after apart formed listed inBefore stored
    · exact Store.matched_of_found stored inAfter

/-- A record that differs is under a key, before or after. -/
theorem found_of_ne (accounted : Accounted list before after)
    (differ : before.record? (kind, id) ≠ after.record? (kind, id)) :
    ∃ entry ∈ list, entry.1.kind = kind ∧
      ((before.matching entry.1)[id]? ≠ none ∨ (after.matching entry.1)[id]? ≠ none) := by
  by_contra nowhere
  apply differ
  have unlike : ∀ (entry : SettledRecord), entry ∈ list → entry.1.kind = kind →
      (before.matching entry.1)[id]? = none ∧ (after.matching entry.1)[id]? = none := by
    intro entry listed sameKind
    constructor
    · by_contra inBefore
      exact nowhere ⟨entry, listed, sameKind, .inl inBefore⟩
    · by_contra inAfter
      exact nowhere ⟨entry, listed, sameKind, .inr inAfter⟩
  apply Option.ext
  intro values
  constructor
  · intro stored
    refine (accounted.rest kind id values ?_).mpr stored
    rintro entry listed rfl matched
    have missing := (unlike entry listed rfl).1
    rw [Store.found_of_matched stored matched] at missing
    cases missing
  · intro stored
    refine (accounted.rest kind id values ?_).mp stored
    rintro entry listed rfl matched
    have missing := (unlike entry listed rfl).2
    rw [Store.found_of_matched stored matched] at missing
    cases missing

/-- What differs is there, before or after. -/
theorem found_of_differ {differ : Option Values → Option Values → Prop}
    (irreflexive : ∀ state, ¬ differ state state) {found left : Option Values}
    (here : differ found left) : found ≠ none ∨ left ≠ none := by
  by_contra nowhere
  rw [not_or, Classical.not_not, Classical.not_not] at nowhere
  rw [nowhere.1, nowhere.2] at here
  exact irreflexive none here

/-- Under which keys a record differs in some way, and whether it does at all. -/
theorem exists_entry_iff (accounted : Accounted list before after)
    (apart : (list.map (·.1)).Pairwise DesiredRecord.Apart) (formed : before.WellFormed)
    {differ : Option Values → Option Values → Prop} (irreflexive : ∀ state, ¬ differ state state) :
    (∃ entry ∈ list, entry.1.kind = kind ∧
      differ ((before.matching entry.1)[id]?) ((after.matching entry.1)[id]?)) ↔
      differ (before.record? (kind, id)) (after.record? (kind, id)) := by
  constructor
  · rintro ⟨entry, listed, rfl, here⟩
    have found := found_of_differ irreflexive here
    obtain ⟨sameBefore, sameAfter⟩ := accounted.record?_of_found apart formed listed found
    rw [← sameBefore, ← sameAfter]
    exact here
  · intro there
    have different : before.record? (kind, id) ≠ after.record? (kind, id) := by
      intro same
      rw [same] at there
      exact irreflexive _ there
    obtain ⟨entry, listed, rfl, found⟩ := accounted.found_of_ne different
    obtain ⟨sameBefore, sameAfter⟩ := accounted.record?_of_found apart formed listed found
    rw [← sameBefore, ← sameAfter] at there
    exact ⟨entry, listed, rfl, there⟩

/-- No record differs under two keys. -/
theorem nodup_named (accounted : Accounted list before after)
    (apart : (list.map (·.1)).Pairwise DesiredRecord.Apart) (formed : before.WellFormed)
    {differ : Option Values → Option Values → Prop} (irreflexive : ∀ state, ¬ differ state state)
    {named : SettledRecord → List RecordKey} (once : ∀ entry ∈ list, (named entry).Nodup)
    (tells : ∀ entry ∈ list, ∀ kind id, (kind, id) ∈ named entry ↔ entry.1.kind = kind ∧
      differ ((before.matching entry.1)[id]?) ((after.matching entry.1)[id]?)) :
    (list.flatMap named).Nodup := by
  rw [List.nodup_flatMap]
  refine ⟨once, ?_⟩
  have apartInList := apart
  rw [List.pairwise_map] at apartInList
  apply apartInList.imp_of_mem
  rintro entry other listed listedToo apartHere ⟨kind, id⟩ inFirst inSecond
  rw [tells entry listed] at inFirst
  rw [tells other listedToo] at inSecond
  obtain ⟨rfl, here⟩ := inFirst
  obtain ⟨sameKind, there⟩ := inSecond
  obtain ⟨sameBefore, sameAfter⟩ := accounted.record?_of_found apart formed listed
    (found_of_differ irreflexive here)
  obtain ⟨sameBeforeToo, sameAfterToo⟩ := accounted.record?_of_found apart formed listedToo
    (found_of_differ irreflexive there)
  rw [sameKind, ← sameBefore] at sameBeforeToo
  rw [sameKind, ← sameAfter] at sameAfterToo
  have notTwice : ∀ {store : Store}, (store.matching other.1)[id]? = (store.matching entry.1)[id]? →
      (store.matching entry.1)[id]? = none := by
    intro store same
    by_contra present
    obtain ⟨values, found⟩ := Option.ne_none_iff_exists'.mp present
    rw [found] at same
    exact apartHere sameKind.symm values
      ⟨(RecordTable.getElem?_matching_eq_some.mp found).2,
        (RecordTable.getElem?_matching_eq_some.mp same).2⟩
  rcases found_of_differ irreflexive here with inBefore | inAfter
  · exact inBefore (notTwice sameBeforeToo)
  · exact inAfter (notTwice sameAfterToo)

/-- Names given where a record differs under its key are those of the records that
differ, each once. -/
theorem perm_named (accounted : Accounted list before after)
    (apart : (list.map (·.1)).Pairwise DesiredRecord.Apart) (formed : before.WellFormed)
    (differ : Option Values → Option Values → Prop) (irreflexive : ∀ state, ¬ differ state state)
    {named : SettledRecord → List RecordKey} (once : ∀ entry ∈ list, (named entry).Nodup)
    (tells : ∀ entry ∈ list, ∀ kind id, (kind, id) ∈ named entry ↔ entry.1.kind = kind ∧
      differ ((before.matching entry.1)[id]?) ((after.matching entry.1)[id]?))
    {keys : List RecordKey} (nodup : keys.Nodup)
    (lists : ∀ key, key ∈ keys ↔ differ (before.record? key) (after.record? key)) :
    (list.flatMap named).Perm keys := by
  rw [List.perm_ext_iff_of_nodup
    (accounted.nodup_named apart formed irreflexive once tells) nodup]
  rintro ⟨kind, id⟩
  rw [lists, ← accounted.exists_entry_iff apart formed irreflexive, List.mem_flatMap]
  apply exists_congr
  intro entry
  apply and_congr_right
  intro listed
  exact tells entry listed kind id

/-- The reports name as created what the store gained. -/
theorem perm_gained (accounted : Accounted list before after)
    (apart : (list.map (·.1)).Pairwise DesiredRecord.Apart) (formed : before.WellFormed) :
    ((list.map SettledRecord.report).flatMap RecordReport.created).Perm
      (before.gained after) := by
  rw [List.flatMap_map]
  refine accounted.perm_named apart formed (fun earlier later => earlier = none ∧ later ≠ none)
    ?_ ?_ ?_ (after.nodup_recordKeys.filter _) fun _ => Store.mem_gained
  · rintro state ⟨missing, present⟩
    exact present missing
  · intro entry _
    exact RecordReport.nodup_created _
  · intro entry listed kind id
    rw [← (accounted.leaves entry listed).created_iff]
    exact RecordReport.mem_created

/-- The reports name as removed what the store lost. -/
theorem perm_lost (accounted : Accounted list before after)
    (apart : (list.map (·.1)).Pairwise DesiredRecord.Apart) (formed : before.WellFormed) :
    ((list.map SettledRecord.report).flatMap RecordReport.removed).Perm (before.lost after) := by
  rw [List.flatMap_map]
  refine accounted.perm_named apart formed (fun earlier later => earlier ≠ none ∧ later = none)
    ?_ ?_ ?_ (before.nodup_recordKeys.filter _) fun _ => Store.mem_lost
  · rintro state ⟨present, missing⟩
    exact present missing
  · intro entry listed
    exact (accounted.leaves entry listed).nodup_removed.map fun _ _ same =>
      (Prod.mk.inj same).2
  · intro entry listed kind id
    rw [← (accounted.leaves entry listed).removed_iff]
    exact RecordReport.mem_removed

/-- The reports name as updated what was rewritten in the store. -/
theorem perm_rewritten (accounted : Accounted list before after)
    (coherent : ∀ entry ∈ list, entry.1.Coherent)
    (apart : (list.map (·.1)).Pairwise DesiredRecord.Apart) (formed : before.WellFormed) :
    ((list.map SettledRecord.report).flatMap RecordReport.updated).Perm
      (before.rewritten after) := by
  rw [List.flatMap_map]
  refine accounted.perm_named apart formed
    (fun earlier later => earlier ≠ none ∧ later ≠ none ∧ later ≠ earlier)
    ?_ ?_ ?_ (before.nodup_recordKeys.filter _) fun _ => Store.mem_rewritten
  · rintro state ⟨_, _, unlike⟩
    exact unlike rfl
  · intro entry _
    exact RecordReport.nodup_updated _
  · intro entry listed kind id
    rw [← (accounted.leaves entry listed).updated_iff (coherent entry listed)]
    exact RecordReport.mem_updated

end Accounted

namespace Reconcile

/-- A pass is not stopped unless the catalog cannot be listed or the manager group cannot
be looked up.  If nothing is beyond taking back, what its summary names as created, as
updated and as removed is what the store gained, had rewritten and lost, and these are
its totals. -/
theorem all_reports_difference (policy : Policy) {session : Session}
    (reached : session.host.store.Reachable) (orderly : session.host.Orderly)
    (goesBack : ¬ session.host.Loses .rollbackToSavepoint) :
    (¬ session.host.Loses .entityTypes → ¬ session.host.Loses .resolveGroup →
      ∃ summary after, session.run (all policy) = (.ok summary, after)) ∧
    ∀ summary after, session.run (all policy) = (.ok summary, after) →
      let before := session.host.store
      let reports := summary.outcomes.flatMap (·.records)
      (summary.created = (before.gained after.host.store).length ∧
        summary.updated = (before.rewritten after.host.store).length ∧
        summary.duplicatesRemoved = (before.lost after.host.store).length) ∧
      (reports.flatMap RecordReport.created).Perm (before.gained after.host.store) ∧
      (reports.flatMap RecordReport.updated).Perm (before.rewritten after.host.store) ∧
      (reports.flatMap RecordReport.removed).Perm (before.lost after.host.store) := by
  have ensures := all_ensures orderly policy
  constructor
  · intro lists looksUp
    obtain ⟨summary, after, ran, _⟩ := ensures.returned fun _ _ stopped => by
      obtain ⟨_, method, rfl | rfl, lost, _⟩ := stopped
      · exact lists lost
      · exact looksUp lost
    exact ⟨summary, after, ran⟩
  · intro summary after ran before reports
    rw [Session.ensures_of_returned ran] at ensures
    have formed := reached.wellFormed
    obtain ⟨list, sublist, _, reported, accounted⟩ := ensures.accounted (.inl goesBack) formed
    have coherent : ∀ entry ∈ list, entry.1.Coherent := fun entry listed =>
      Policy.coherent_of_mem_allDesired (sublist.subset (List.mem_map_of_mem listed))
    have apart : (list.map (·.1)).Pairwise DesiredRecord.Apart :=
      (policy.flatMap_desiredRecords_apart _ formed.securedTypes_distinct).sublist sublist
    have created := accounted.perm_gained apart formed
    have updated := accounted.perm_rewritten coherent apart formed
    have removed := accounted.perm_lost apart formed
    rw [← reported] at created updated removed
    have adds := ensures.adds
    refine ⟨⟨?_, ?_, ?_⟩, created, updated, removed⟩
    · rw [adds.created, ← RecordReport.length_created, created.length_eq]
      exact Nat.zero_add _
    · rw [adds.updated, ← RecordReport.length_updated, updated.length_eq]
      exact Nat.zero_add _
    · rw [adds.duplicatesRemoved, ← RecordReport.length_removed, removed.length_eq]
      exact Nat.zero_add _

/-- A store in which the grant of the manager group for one of two entity types is there
twice, without most of its permissions. -/
def drifted : Store :=
  let grant : Values := .ofList <|
    [("name", FieldValue.text "sale.order - company manager"), ("model_id", .ref 2),
      ("group_id", .ref 3), ("perm_read", .bool true)]
  let operations : List Store.Operation :=
    [.addEntityType "res.partner", .addEntityType "sale.order",
      .addGroup ⟨"multicompany_instead_of_multidatabase", "group_company_manager"⟩,
      .insertRecord .accessGrant grant, .insertRecord .accessGrant grant]
  operations.foldl Store.Operation.apply {}

theorem drifted_reachable : drifted.Reachable :=
  Store.Reachable.empty.foldl _

/-- The first entity type is given up with its second record, and the second one is not. -/
theorem all_reports_difference_drifted :
    let policy : Policy := { classifier := .empty, config := {} }
    let session : Session := { host := {
      store := drifted
      schedule := Schedule.none.arm .create 1 false (.unreachable ["connection lost"]) } }
    ∃ summary after, session.run (all policy) = (.ok summary, after) ∧
      let reports := summary.outcomes.flatMap (·.records)
      (summary.created = (drifted.gained after.host.store).length ∧
        summary.updated = (drifted.rewritten after.host.store).length ∧
        summary.duplicatesRemoved = (drifted.lost after.host.store).length) ∧
      (reports.flatMap RecordReport.created).Perm (drifted.gained after.host.store) ∧
      (reports.flatMap RecordReport.updated).Perm (drifted.rewritten after.host.store) ∧
      (reports.flatMap RecordReport.removed).Perm (drifted.lost after.host.store) := by
  intro policy session
  have keepsCalls : ∀ method : Method, method ≠ .create → ¬ session.host.Loses method := by
    rintro method unlike ⟨journal, error, lost⟩
    simp [session, Schedule.arm, Schedule.none, unlike] at lost
  obtain ⟨returns, differs⟩ := @all_reports_difference policy session drifted_reachable
    (fun _ => .refl _) (keepsCalls _ (by decide))
  obtain ⟨summary, after, ran⟩ := returns (keepsCalls _ (by decide)) (keepsCalls _ (by decide))
  exact ⟨summary, after, ran, differs summary after ran⟩

end Reconcile

end TenantGuard
