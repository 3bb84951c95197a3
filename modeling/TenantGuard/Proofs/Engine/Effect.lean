import TenantGuard.Proofs.Engine.Conflicts
import TenantGuard.Proofs.Engine.Failures
import TenantGuard.Proofs.Engine.Leaves

/-!
# What bringing in a record changes

Of all the records in the store, bringing in a desired record changes those found under its key,
or it adds one.  What is found decides between the three cases: a record is created where there
is none, records that differ in a desired field are left alone and reported, and the others are
brought together in the one with the lowest id, which keeps what it has in the other fields.
-/

namespace TenantGuard

namespace DesiredRecord

variable {desired : DesiredRecord} {before after : Store} {outcome : RecordOutcome}
  {kept : RecordId} {copies : List RecordId}

/-- The records found under a key are the active ones that meet all of its criteria. -/
theorem mem_matching_iff {store : Store} {id : RecordId} :
    id ∈ (store.matching desired).keys ↔
      ∃ values, (store.data.records desired.kind)[id]? = some values ∧ values.active ∧
        ∀ criterion ∈ desired.criteria, criterion.holds values := by
  rw [Std.ExtTreeMap.mem_keys, RecordTable.mem_iff_stored]
  simp only [Store.matching, RecordTable.getElem?_matching_eq_some, matched, Bool.and_eq_true,
    Criterion.allHold, List.all_eq_true]

/-- Settling a desired record changes only what is found under its key. -/
theorem Settles.getElem? (coherent : desired.Coherent) (formed : before.WellFormed)
    (settles : desired.Settles before outcome after) (kind : RecordKind) (id : RecordId) :
    (after.data.records kind)[id]? =
      if desired.kind = kind ∧ (id ∈ before.matching desired ∨ id ∈ after.matching desired) then
        (after.matching desired)[id]?
      else (before.data.records kind)[id]? := by
  have others := @settles.getElem?_of_not_matched _ _ _ _ coherent formed
  split
  next shown =>
    obtain ⟨rfl, shown⟩ := shown
    cases present : (after.data.records desired.kind)[id]? with
    | none => rw [Store.matching, RecordTable.getElem?_matching, present, Option.filter_none]
    | some values =>
        symm
        rw [Store.matching, RecordTable.getElem?_matching_eq_some]
        refine ⟨present, Classical.byContradiction fun unlike => ?_⟩
        rcases shown with wasShown | isShown
        · have wasPresent := (others fun _ => unlike).mp present
          exact unlike (Store.matched_of_mem_matching wasShown wasPresent)
        · exact unlike (Store.matched_of_mem_matching isShown present)
  next hidden =>
    apply Option.ext
    intro values
    by_cases like : desired.kind = kind ∧ desired.matched values
    · obtain ⟨rfl, matched⟩ := like
      have shows {store : Store}
          (present : (store.data.records desired.kind)[id]? = some values) :
          id ∈ store.matching desired :=
        RecordTable.mem_of_stored (RecordTable.getElem?_matching_eq_some.mpr ⟨present, matched⟩)
      constructor
      · intro present
        exact absurd ⟨rfl, .inr (shows present)⟩ hidden
      · intro present
        exact absurd ⟨rfl, .inl (shows present)⟩ hidden
    · exact others fun same matched => like ⟨same, matched⟩

/-- Where nothing is found, a record is added under an id of its own. -/
theorem Settles.of_missing (coherent : desired.Coherent) (formed : before.WellFormed)
    (settles : desired.Settles before outcome after) (missing : before.matching desired = ∅) :
    ∃ id, outcome = .created id ∧ before.lastId < id ∧
      (∀ kind, (before.data.records kind)[id]? = none) ∧
      ∀ kind other, (after.data.records kind)[other]? =
        if desired.kind = kind ∧ id = other then some desired.values
        else (before.data.records kind)[other]? := by
  have leaves := settles.leaves coherent
  rw [missing] at leaves
  obtain ⟨id, rfl, left⟩ := leaves.of_missing
  refine ⟨id, rfl, leaves.fresh, ?_, ?_⟩
  · intro kind
    apply Std.ExtTreeMap.getElem?_eq_none
    intro present
    exact absurd (formed.data kind id present) (Int.not_le.mpr leaves.fresh)
  · intro kind other
    have shown : other ∈ before.matching desired ∨ other ∈ after.matching desired ↔
        id = other := by
      rw [missing, left, RecordTable.mem_single, eq_comm]
      exact or_iff_right Std.ExtTreeMap.not_mem_empty
    rw [settles.getElem? coherent formed]
    simp only [shown]
    split
    next same => rw [left, RecordTable.getElem?_single, if_pos same.2]
    next => rfl

/-- Records that differ in a desired field are left alone and reported. -/
theorem Settles.of_disagreeing (settles : desired.Settles before outcome after)
    (differ : desired.disagreements (before.matching desired) ≠ []) :
    outcome = .conflict (desired.conflictOf (before.matching desired)) ∧ after = before := by
  obtain rfl := settles.conflict_iff.mpr ⟨rfl, differ⟩
  cases settles with
  | conflicting => exact ⟨rfl, rfl⟩

/-- Records that agree are brought together in the first of them, which carries the desired
values then and keeps its other fields. -/
theorem Settles.of_agreeing (coherent : desired.Coherent) (formed : before.WellFormed)
    (settles : desired.Settles before outcome after)
    (listed : (before.matching desired).keys = kept :: copies)
    (agree : desired.disagreements (before.matching desired) = []) :
    ∃ stored values, (before.data.records desired.kind)[kept]? = some stored ∧
      (∀ field ∉ desired.fields, values[field]? = stored[field]?) ∧ desired.CarriedBy values ∧
      (desired.CarriedBy stored → outcome = .unchanged kept copies) ∧
      (¬ desired.CarriedBy stored → outcome = .updated kept copies) ∧
      ∀ kind other, (after.data.records kind)[other]? =
        if desired.kind = kind ∧ other ∈ kept :: copies then
          if kept = other then some values else none
        else (before.data.records kind)[other]? := by
  have first : kept ∈ before.matching desired := by
    rw [← Std.ExtTreeMap.mem_keys, listed]
    exact List.mem_cons_self
  obtain ⟨stored, seen⟩ := RecordTable.mem_iff_stored.mp first
  obtain ⟨rfl, left⟩ := (settles.leaves coherent).of_agreeing listed seen fun _ => agree
  refine ⟨stored, desired.adjusted stored, (RecordTable.getElem?_matching_eq_some.mp seen).1,
    ?_, coherent.carriedBy_adjusted stored, ?_, ?_, ?_⟩
  · intro field unlisted
    apply getElem?_adjusted_of_none
    rwa [fields, Std.ExtTreeMap.mem_keys, Std.ExtTreeMap.mem_iff_isSome_getElem?,
      Option.not_isSome_iff_eq_none] at unlisted
  · intro carried
    rw [gathered, if_pos]
    exact Std.ExtTreeMap.isEmpty_iff.mpr
      ((coherent.changesOf_eq_empty_iff listed seen).mpr carried)
  · intro lacking
    rw [gathered, if_neg]
    exact fun same => lacking ((coherent.changesOf_eq_empty_iff listed seen).mp
      (Std.ExtTreeMap.isEmpty_iff.mp same))
  · intro kind other
    have shown : other ∈ before.matching desired ∨ other ∈ after.matching desired ↔
        other ∈ kept :: copies := by
      rw [left, RecordTable.mem_single, ← Std.ExtTreeMap.mem_keys, listed, List.mem_cons]
      exact or_iff_left_of_imp .inl
    rw [settles.getElem? coherent formed]
    simp only [shown]
    rw [left, RecordTable.getElem?_single]

end DesiredRecord

namespace Reconcile

open DesiredRecord

/-- No call fails on the way to a desired record in a store that gets every call and refuses no
write. -/
theorem record_unfailed {session : Session} (orderly : session.host.Orderly)
    (unhindered : ¬ session.host.Hindered) (entity : String) (desired : DesiredRecord) :
    (session.run (record entity desired)).2.host.failures = session.host.failures := by
  obtain ⟨outcome, after, ran, _⟩ :=
    (record_ensures orderly entity desired).returned fun _ _ stopped =>
      unhindered (stopped.2.hindered fun _ refused => refused.rejects)
  have candid := holds_record Step.candid_compositional entity desired session
  rw [Session.ensures_of_returned ran] at candid
  rw [ran]
  exact candid.1

/-- What becomes of a record that is built for an entity type, if no call fails.  Whichever
order a search lists its ids in, the records found under the key are taken in ascending order of
their ids.  If there are none, one record is added, under an id of its own and with the desired
values.  If they differ in desired fields, the store stays as it is and the conflict tells
these fields and all the ids.  Otherwise the first of them stays, with the desired values and its
other fields as they were, and is updated exactly if it did not carry every desired value; the
others are removed.  All other records stay as they are. -/
theorem record_settles {session : Session} (reached : session.host.store.Reachable)
    (orderly : session.host.Orderly) (entity : String) {entityType : EntityType}
    {rules : List Rule} {group : Option RecordId} {desired : DesiredRecord}
    (built : desired ∈ globalRules entityType rules ++ managerRecords entityType group)
    (unfailed : (session.run (record entity desired)).2.host.failures = session.host.failures) :
    let before := session.host.store
    let after := (session.run (record entity desired)).2.host.store
    let found := before.matching desired
    let differing := differingFields desired.fields (desired.rows found)
    (found.keys.Pairwise (· < ·) ∧ ∀ id, id ∈ found.keys ↔
      ∃ values, (before.data.records desired.kind)[id]? = some values ∧ values.active ∧
        ∀ criterion ∈ desired.criteria, criterion.holds values) ∧
    ∃ outcome, (session.run (record entity desired)).1 = .ok outcome ∧
      (found.keys = [] → ∃ id, outcome = .created id ∧ before.lastId < id ∧
        (∀ kind, (before.data.records kind)[id]? = none) ∧
        ∀ kind other, (after.data.records kind)[other]? =
          if desired.kind = kind ∧ id = other then some desired.values
          else (before.data.records kind)[other]?) ∧
      (differing ≠ [] → after = before ∧ differing.Pairwise (· < ·) ∧
        outcome = .conflict
          { kind := desired.kind, count := found.keys.length, criteria := desired.criteria,
            fields := differing, ids := found.keys }) ∧
      ∀ kept copies, found.keys = kept :: copies → differing = [] →
        ∃ stored values, (before.data.records desired.kind)[kept]? = some stored ∧
          (∀ field ∉ desired.fields, values[field]? = stored[field]?) ∧
          desired.CarriedBy values ∧
          (desired.CarriedBy stored → outcome = .unchanged kept copies) ∧
          (¬ desired.CarriedBy stored → outcome = .updated kept copies) ∧
          ∀ kind other, (after.data.records kind)[other]? =
            if desired.kind = kind ∧ other ∈ kept :: copies then
              if kept = other then some values else none
            else (before.data.records kind)[other]? := by
  intro before after found differing
  have coherent := coherent_of_mem_built built
  have formed := reached.wellFormed
  refine ⟨⟨found.ascending_keys, fun _ => mem_matching_iff⟩, ?_⟩
  obtain ⟨outcome, session', ran⟩ :=
    (holds_record Step.candid_compositional entity desired).returned unfailed
  have settles : desired.Settles before outcome after := by
    have ensures := record_ensures orderly entity desired
    rw [Session.ensures_of_returned ran] at ensures
    change desired.Settles before outcome (session.run (record entity desired)).2.host.store
    rw [ran]
    exact ensures
  refine ⟨outcome, by rw [ran], ?_, ?_, ?_⟩
  · intro missing
    exact settles.of_missing coherent formed (Std.ExtTreeMap.keys_eq_nil_iff.mp missing)
  · intro differ
    obtain ⟨conflicting, same⟩ := settles.of_disagreeing differ
    exact ⟨same, desired.disagreements_ascending found, conflicting⟩
  · intro kept copies listed agree
    exact settles.of_agreeing coherent formed listed agree

/-- Three grants agree, found in descending order: the last two are removed, and the first gets
the permission it lacked and keeps its note. -/
theorem record_settles_granted :
    let grant : List (String × FieldValue) :=
      [("perm_read", .bool true), ("perm_write", .bool true), ("perm_create", .bool true),
        ("perm_unlink", .bool false)]
    let store := granted [("note", .text "reviewed") :: grant, grant, grant]
    let session : Session := { host := { store, arrange := List.reverse } }
    let desired := managerGrant ⟨1, "res.partner"⟩ 2
    let ran := session.run (record "res.partner" desired)
    store.Reachable ∧ ran.1 = .ok (.updated 3 [4, 5]) ∧
      ∃ values, desired.CarriedBy values ∧ values["note"]? = some (.text "reviewed") ∧
        ∀ (kind : RecordKind) (other : RecordId), (ran.2.host.store.data.records kind)[other]? =
          if .accessGrant = kind ∧ other ∈ [3, 4, 5] then if 3 = other then some values else none
          else (store.data.records kind)[other]? := by
  intro grant store session desired ran
  have orderly : session.host.Orderly := List.reverse_perm
  have unhindered : ¬ session.host.Hindered := by
    rintro (⟨method, journal, error, lost⟩ | refuses)
    · cases lost
    · exact refuses rfl
  have built : desired ∈ globalRules ⟨1, "res.partner"⟩ [] ++
      managerRecords ⟨1, "res.partner"⟩ (some 2) := List.mem_cons_self
  obtain ⟨_, outcome, returned, _, _, agreeing⟩ := record_settles (granted_reachable _) orderly
    "res.partner" built (record_unfailed orderly unhindered _ _)
  obtain ⟨stored, values, present, others, carried, _, updated, effect⟩ :=
    agreeing 3 [4, 5] (by decide +kernel) (by decide +kernel)
  have noted : stored["note"]? = some (.text "reviewed") := by
    have read : (store.data.records desired.kind)[(3 : RecordId)]?.bind (·["note"]?) =
        some (.text "reviewed") := by decide +kernel
    rwa [present] at read
  have lacking : ¬ desired.CarriedBy stored := by
    intro carried
    have read : (store.data.records desired.kind)[(3 : RecordId)]?.map
        (fun values => (values.read "perm_unlink").normalized) = some (.bool false) := by
      decide +kernel
    have wanted : desired.values["perm_unlink"]? = some (.bool true) := by decide +kernel
    rw [present, Option.map_some,
      (coherent_of_mem_built built).read_of_carriedBy carried wanted] at read
    cases read
  rw [updated lacking] at returned
  exact ⟨granted_reachable _, returned, values, carried,
    (others "note" (by decide +kernel)).trans noted, effect⟩

end Reconcile

end TenantGuard
