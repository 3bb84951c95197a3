import TenantGuard.Proofs.Engine.Settled
import TenantGuard.Proofs.Engine.Totals

/-!
# What is left under a key

What became of a desired record determines what is left under its key, up to the id of a
record that is created.  What was found there determines both: nothing leads to a new
record, records that differ are left alone, and others are brought together in the first
of them, with the desired values.
-/

namespace TenantGuard

namespace DesiredRecord

/-- What is left under a key, given what was found there, what became of the desired
record, and the last id that had been handed out. -/
inductive Leaves (desired : DesiredRecord) (last : RecordId) (found : RecordTable) :
    RecordOutcome → RecordTable → Prop where
  | created {id : RecordId} (missing : found = ∅) (fresh : last < id) :
      Leaves desired last found (.created id) (.single id desired.values)
  | conflicting (several : 2 ≤ found.size) (differ : desired.disagreements found ≠ []) :
      Leaves desired last found (.conflict (desired.conflictOf found)) found
  | unchanged {kept : RecordId} {copies : List RecordId} {values : Values}
      (listed : found.keys = kept :: copies) (stored : found[kept]? = some values)
      (agree : copies ≠ [] → desired.disagreements found = [])
      (same : desired.changesOf found = ∅) :
      Leaves desired last found (.unchanged kept copies) (.single kept values)
  | updated {kept : RecordId} {copies : List RecordId} {values : Values}
      (listed : found.keys = kept :: copies) (stored : found[kept]? = some values)
      (agree : copies ≠ [] → desired.disagreements found = [])
      (differ : desired.changesOf found ≠ ∅) :
      Leaves desired last found (.updated kept copies)
        (.single kept (values.overwrite (desired.changesOf found)))

variable {desired : DesiredRecord} {before after : Store} {outcome : RecordOutcome}
  {last earlier : RecordId} {found left : RecordTable} {kept id : RecordId}
  {copies : List RecordId} {values : Values}

theorem Leaves.mono (leaves : desired.Leaves last found outcome left) (le : earlier ≤ last) :
    desired.Leaves earlier found outcome left := by
  cases leaves with
  | created missing fresh => exact .created missing (Int.lt_of_le_of_lt le fresh)
  | conflicting several differ => exact .conflicting several differ
  | unchanged listed stored agree same => exact .unchanged listed stored agree same
  | updated listed stored agree differ => exact .updated listed stored agree differ

/-- The record with the desired values in all fields that differ from them. -/
def adjusted (desired : DesiredRecord) (values : Values) : Values :=
  values.overwrite (Reconcile.changes values.normalized desired.values)

/-- What becomes of records that are brought together in the first of them. -/
def gathered (desired : DesiredRecord) (found : RecordTable) (kept : RecordId)
    (copies : List RecordId) : RecordOutcome :=
  if (desired.changesOf found).isEmpty then .unchanged kept copies else .updated kept copies

@[simp] theorem isCreated_gathered : (desired.gathered found kept copies).isCreated = false := by
  rw [gathered]
  split
  · rfl
  · rfl

@[simp] theorem removed_gathered : (desired.gathered found kept copies).removed = copies := by
  rw [gathered]
  split
  · rfl
  · rfl

theorem getElem?_adjusted (desired : DesiredRecord) (values : Values) (field : String) :
    (desired.adjusted values)[field]? =
      (desired.values[field]?.filter fun value => (values.read field).normalized ≠ value).or
        values[field]? := by
  rw [adjusted, Values.getElem?_overwrite, Reconcile.changes, Std.ExtTreeMap.getElem?_filter',
    Values.read_normalized]

/-- A field with its desired value is left as it is. -/
theorem getElem?_adjusted_of_read {field : String} {value : FieldValue}
    (wanted : desired.values[field]? = some value)
    (same : (values.read field).normalized = value) :
    (desired.adjusted values)[field]? = values[field]? := by
  rw [getElem?_adjusted, wanted, Option.filter_some, if_neg (by simpa using same),
    Option.none_or]

/-- A field that is not desired is left as it is. -/
theorem getElem?_adjusted_of_none {field : String} (unwanted : desired.values[field]? = none) :
    (desired.adjusted values)[field]? = values[field]? := by
  rw [getElem?_adjusted, unwanted, Option.filter_none, Option.none_or]

/-- An adjusted field reads as desired. -/
theorem Coherent.read_adjusted (coherent : desired.Coherent) {field : String}
    {value : FieldValue} (wanted : desired.values[field]? = some value) :
    ((desired.adjusted values).read field).normalized = value := by
  rw [Values.read, getElem?_adjusted, wanted, Option.filter_some]
  split
  next => exact coherent.normalized field value wanted
  next same =>
    rw [Option.none_or, ← Values.read]
    simpa using same

/-- An adjusted record carries the desired values. -/
theorem Coherent.carriedBy_adjusted (coherent : desired.Coherent) (values : Values) :
    desired.CarriedBy (desired.adjusted values) :=
  coherent.carriedBy_of_read fun _ _ wanted => coherent.read_adjusted wanted

/-- What is written to the first of the records under a key depends on that record
alone. -/
theorem changesOf_eq (listed : found.keys = kept :: copies) (stored : found[kept]? = some values) :
    desired.changesOf found = Reconcile.changes values.normalized desired.values := by
  apply Std.ExtTreeMap.ext_getElem?
  intro field
  rw [getElem?_changesOf listed stored, Reconcile.changes, Std.ExtTreeMap.getElem?_filter',
    Values.read_normalized]

/-- What can be found under a key: nothing, records that differ, or records that can be
brought together. -/
theorem found_cases (desired : DesiredRecord) (found : RecordTable) :
    found = ∅ ∨ (2 ≤ found.size ∧ desired.disagreements found ≠ []) ∨
      ∃ kept copies values, found.keys = kept :: copies ∧ found[kept]? = some values ∧
        (copies ≠ [] → desired.disagreements found = []) := by
  cases listed : found.keys with
  | nil => exact .inl (Std.ExtTreeMap.keys_eq_nil_iff.mp listed)
  | cons kept copies =>
      right
      have present : kept ∈ found := by
        rw [← Std.ExtTreeMap.mem_keys, listed]
        exact List.mem_cons_self
      obtain ⟨values, stored⟩ := RecordTable.mem_iff_stored.mp present
      by_cases conflict : copies ≠ [] ∧ desired.disagreements found ≠ []
      · exact .inl ⟨(RecordTable.two_le_size listed).mpr conflict.1, conflict.2⟩
      · right
        exact ⟨kept, copies, values, rfl, stored, fun several =>
          Classical.byContradiction fun differ => conflict ⟨several, differ⟩⟩

/-- Where nothing is found the record is created. -/
theorem Leaves.of_missing (leaves : desired.Leaves last ∅ outcome left) :
    ∃ id, outcome = .created id ∧ left = .single id desired.values := by
  cases leaves with
  | created => exact ⟨_, rfl, rfl⟩
  | conflicting several => simp at several
  | unchanged listed stored | updated listed stored => simp at stored

/-- A record is created exactly where nothing is found. -/
theorem Leaves.isCreated_iff (leaves : desired.Leaves last found outcome left) :
    outcome.isCreated ↔ found = ∅ := by
  cases leaves with
  | created missing => simp [missing, RecordOutcome.isCreated]
  | conflicting several =>
      constructor
      · intro isCreated
        cases isCreated
      · rintro rfl
        simp at several
  | unchanged listed | updated listed =>
      constructor
      · intro isCreated
        cases isCreated
      · intro missing
        exact absurd missing (RecordTable.ne_empty_of_keys listed)

/-- Records that differ are left as they are. -/
theorem Leaves.of_conflicting (leaves : desired.Leaves last found outcome left)
    (several : 2 ≤ found.size) (differ : desired.disagreements found ≠ []) :
    outcome = .conflict (desired.conflictOf found) ∧ left = found := by
  cases leaves with
  | created missing =>
      rw [missing] at several
      simp at several
  | conflicting => exact ⟨rfl, rfl⟩
  | unchanged listed stored agree | updated listed stored agree =>
      exact absurd (agree ((RecordTable.two_le_size listed).mp several)) differ

/-- Records that can be brought together leave the first of them, with the desired
values. -/
theorem Leaves.of_agreeing (leaves : desired.Leaves last found outcome left)
    (listed : found.keys = kept :: copies) (stored : found[kept]? = some values)
    (agree : copies ≠ [] → desired.disagreements found = []) :
    outcome = desired.gathered found kept copies ∧
      left = .single kept (desired.adjusted values) := by
  cases leaves with
  | created missing =>
      rw [missing] at stored
      simp at stored
  | conflicting several differ =>
      exact absurd (agree ((RecordTable.two_le_size listed).mp several)) differ
  | unchanged listedToo storedToo _ same =>
      rw [listed, List.cons.injEq] at listedToo
      obtain ⟨rfl, rfl⟩ := listedToo
      rw [stored, Option.some.injEq] at storedToo
      rw [gathered, if_pos (Std.ExtTreeMap.isEmpty_iff.mpr same)]
      rw [changesOf_eq listed stored] at same
      rw [← storedToo, adjusted, same, Values.overwrite_empty]
      exact ⟨rfl, rfl⟩
  | updated listedToo storedToo _ differ =>
      rw [listed, List.cons.injEq] at listedToo
      obtain ⟨rfl, rfl⟩ := listedToo
      rw [stored, Option.some.injEq] at storedToo
      rw [gathered, if_neg (mt Std.ExtTreeMap.isEmpty_iff.mp differ), ← storedToo,
        changesOf_eq listed stored]
      exact ⟨rfl, rfl⟩

/-- What was found, unless it was nothing, determines what becomes of it. -/
theorem Leaves.determined (leaves : desired.Leaves last found outcome left)
    {lastToo : RecordId} {other : RecordOutcome} {leftToo : RecordTable}
    (leavesToo : desired.Leaves lastToo found other leftToo) (present : found ≠ ∅) :
    outcome = other ∧ left = leftToo := by
  rcases desired.found_cases found with
    missing | ⟨several, differ⟩ | ⟨kept, copies, values, listed, stored, agree⟩
  · exact absurd missing present
  · obtain ⟨rfl, rfl⟩ := leaves.of_conflicting several differ
    obtain ⟨rfl, rfl⟩ := leavesToo.of_conflicting several differ
    exact ⟨rfl, rfl⟩
  · obtain ⟨rfl, rfl⟩ := leaves.of_agreeing listed stored agree
    obtain ⟨rfl, rfl⟩ := leavesToo.of_agreeing listed stored agree
    exact ⟨rfl, rfl⟩

/-- A record under the key is new exactly if it was created. -/
theorem Leaves.created_iff (leaves : desired.Leaves last found outcome left) :
    outcome = .created id ↔ found[id]? = none ∧ left[id]? ≠ none := by
  cases leaves with
  | created missing fresh =>
      rw [missing, RecordTable.getElem?_single, Std.ExtTreeMap.getElem?_empty]
      simp
  | conflicting => simp
  | unchanged listed stored | updated listed stored =>
      rw [RecordTable.getElem?_single]
      split
      next same => simp [← same, stored]
      next => simp

/-- A created record has an id above the last one. -/
theorem Leaves.fresh (leaves : desired.Leaves last found (.created id) left) : last < id := by
  cases leaves with
  | created _ fresh => exact fresh

/-- The first record under a key is not among the others. -/
theorem mem_copies_iff {kept : RecordId} {copies : List RecordId}
    (listed : found.keys = kept :: copies) :
    id ∈ copies ↔ found[id]? ≠ none ∧ kept ≠ id := by
  have nodup : found.keys.Nodup := Std.ExtTreeMap.nodup_keys
  rw [listed, List.nodup_cons] at nodup
  rw [← Option.isSome_iff_ne_none, ← Std.ExtTreeMap.mem_iff_isSome_getElem?,
    ← Std.ExtTreeMap.mem_keys, listed, List.mem_cons]
  constructor
  · intro copied
    refine ⟨.inr copied, ?_⟩
    rintro rfl
    exact nodup.1 copied
  · rintro ⟨rfl | copied, different⟩
    · exact absurd rfl different
    · exact copied

/-- A record under the key is gone exactly if it was removed. -/
theorem Leaves.removed_iff (leaves : desired.Leaves last found outcome left) :
    id ∈ outcome.removed ↔ found[id]? ≠ none ∧ left[id]? = none := by
  cases leaves with
  | created missing fresh =>
      rw [missing, Std.ExtTreeMap.getElem?_empty]
      simp [RecordOutcome.removed]
  | conflicting => simp [RecordOutcome.removed]
  | unchanged listed | updated listed =>
      rw [RecordOutcome.removed, mem_copies_iff listed, RecordTable.getElem?_single]
      simp

/-- What is left under a key was found there, or it has an id above the last one. -/
theorem Leaves.found_of_left (leaves : desired.Leaves last found outcome left)
    (present : left[id]? ≠ none) : last < id ∨ found[id]? ≠ none := by
  by_cases missing : found[id]? = none
  · left
    rw [leaves.created_iff.mpr ⟨missing, present⟩] at leaves
    exact leaves.fresh
  · exact .inr missing

/-- The record that stands for the desired one is under the key. -/
theorem Leaves.left_of_id? (leaves : desired.Leaves last found outcome left)
    (named : outcome.id? = some id) : left[id]? ≠ none := by
  cases leaves with
  | created | unchanged | updated =>
      cases named
      rw [RecordTable.getElem?_single, if_pos rfl]
      exact Option.some_ne_none _
  | conflicting => cases named

theorem Leaves.nodup_removed (leaves : desired.Leaves last found outcome left) :
    outcome.removed.Nodup := by
  cases leaves with
  | created | conflicting => exact List.nodup_nil
  | unchanged listed | updated listed =>
      have nodup : found.keys.Nodup := Std.ExtTreeMap.nodup_keys
      rw [listed, List.nodup_cons] at nodup
      exact nodup.2

/-- A field that is to be written has another value in the record. -/
theorem Coherent.overwrite_changesOf_ne (coherent : desired.Coherent) {kept : RecordId}
    {copies : List RecordId} {values : Values} (listed : found.keys = kept :: copies)
    (stored : found[kept]? = some values) (differ : desired.changesOf found ≠ ∅) :
    values.overwrite (desired.changesOf found) ≠ values := by
  intro same
  apply differ
  apply Std.ExtTreeMap.ext_getElem?
  intro field
  rw [Std.ExtTreeMap.getElem?_empty]
  cases changed : (desired.changesOf found)[field]? with
  | none => rfl
  | some value =>
      have stands : values[field]? = some value := by
        rw [← same, Values.getElem?_overwrite, changed, Option.some_or]
      rw [getElem?_changesOf listed stored, Option.filter_eq_some_iff,
        Values.read_of_getElem? _ _ stands] at changed
      rw [coherent.normalized field value changed.1] at changed
      simp at changed

/-- A record under the key has other values exactly if it was updated. -/
theorem Leaves.updated_iff (coherent : desired.Coherent)
    (leaves : desired.Leaves last found outcome left) :
    (∃ copies, outcome = .updated id copies) ↔
      found[id]? ≠ none ∧ left[id]? ≠ none ∧ left[id]? ≠ found[id]? := by
  cases leaves with
  | created missing fresh =>
      rw [missing, Std.ExtTreeMap.getElem?_empty]
      simp
  | conflicting => simp
  | unchanged listed stored =>
      rw [RecordTable.getElem?_single]
      split
      next same => simp [← same, stored]
      next => simp
  | updated listed stored agree differ =>
      have unlike := coherent.overwrite_changesOf_ne listed stored differ
      rw [RecordTable.getElem?_single]
      split
      next same => simp [← same, stored, unlike]
      next different => simp [different]

/-- What is written to the first record is stored as it is. -/
theorem Coherent.normalized_changesOf (coherent : desired.Coherent) :
    (desired.changesOf found).normalized = desired.changesOf found := by
  apply Std.ExtTreeMap.ext_getElem?
  intro field
  rw [Values.getElem?_normalized]
  cases changed : (desired.changesOf found)[field]? with
  | none => rfl
  | some value =>
      rw [changesOf, Reconcile.changes, Std.ExtTreeMap.getElem?_filter',
        Option.filter_eq_some_iff] at changed
      rw [Option.map_some, coherent.normalized field value changed.1]

/-- Settling leaves under the key what the outcome tells. -/
theorem Settles.leaves (coherent : desired.Coherent)
    (settles : desired.Settles before outcome after) :
    desired.Leaves before.lastId (before.matching desired) outcome (after.matching desired) := by
  cases settles with
  | created missing creates =>
      obtain ⟨rfl, rfl⟩ := Store.create_eq_ok creates
      change desired.Leaves _ _ _
        ((before.allocate.2.putRecord _ _ desired.values.normalized).matching desired)
      rw [Store.matching_putRecord_self coherent.matched_normalized, coherent.normalized_values]
      change desired.Leaves _ _ _ ((before.matching desired).insert _ _)
      rw [missing]
      exact .created rfl (Int.lt_succ _)
  | conflicting found several differ =>
      exact .conflicting ((RecordTable.two_le_size found).mpr several) differ
  | unchanged merges same =>
      obtain ⟨values, stored, single⟩ := merges.single
      rw [single]
      exact .unchanged merges.found stored merges.agree same
  | updated merges differ writes =>
      obtain ⟨values, stored, _, _, _, single⟩ := merges.matching_write coherent writes
      rw [single, coherent.normalized_changesOf]
      exact .updated merges.found stored merges.agree differ

/-- What is left under a key is one record with the desired values, or a conflict. -/
theorem Leaves.settled (coherent : desired.Coherent)
    (leaves : desired.Leaves last found outcome left) : desired.Settled found outcome left := by
  cases leaves with
  | created =>
      apply Settled.standing rfl
      intro field value wanted
      exact ⟨value, wanted, rfl⟩
  | conflicting several differ => exact .conflicting several differ
  | unchanged listed stored agree same =>
      exact Settled.standing rfl ((coherent.changesOf_eq_empty_iff listed stored).mp same)
  | updated listed stored =>
      apply Settled.standing rfl
      rw [← coherent.normalized_changesOf]
      exact coherent.carriedBy_written listed stored

/-- A reduction removes the copies and nothing else. -/
theorem Merges.getElem? {kept : RecordId} {copies : List RecordId}
    (merges : desired.Merges before kept copies after) {kind : RecordKind} {id : RecordId} :
    (after.data.records kind)[id]? =
      if desired.kind = kind ∧ id ∈ copies then none else (before.data.records kind)[id]? := by
  rw [merges.left]
  split
  next alone => simp [alone]
  next => exact Store.getElem?_unlink

theorem Merges.getElem?_of_not_matched {kept : RecordId} {copies : List RecordId}
    (merges : desired.Merges before kept copies after) {kind : RecordKind} {id : RecordId}
    {values : Values} (unlike : desired.kind = kind → ¬ desired.matched values) :
    (after.data.records kind)[id]? = some values ↔
      (before.data.records kind)[id]? = some values := by
  rw [merges.getElem?]
  split
  next removed =>
    obtain ⟨rfl, copied⟩ := removed
    have listed : id ∈ before.matching desired := by
      rw [← Std.ExtTreeMap.mem_keys, merges.found]
      exact List.mem_cons_of_mem _ copied
    constructor
    · intro missing
      cases missing
    · intro stored
      exact absurd (Store.matched_of_mem_matching listed stored) (unlike rfl)
  next => rfl

/-- Settling leaves the records under no key as they are, and makes no others. -/
theorem Settles.getElem?_of_not_matched (coherent : desired.Coherent)
    (formed : before.WellFormed) (settles : desired.Settles before outcome after)
    {kind : RecordKind} {id : RecordId} {values : Values}
    (unlike : desired.kind = kind → ¬ desired.matched values) :
    (after.data.records kind)[id]? = some values ↔
      (before.data.records kind)[id]? = some values := by
  cases settles with
  | created missing creates =>
      rw [Store.getElem?_of_create creates]
      split
      next here =>
        obtain ⟨rfl, rfl⟩ := here
        rw [(Store.create_eq_ok creates).1, formed.fresh, Option.some.injEq]
        constructor
        · intro same
          rw [← same] at unlike
          exact absurd coherent.matched_normalized (unlike rfl)
        · intro stored
          cases stored
      next => rfl
  | conflicting => rfl
  | unchanged merges => exact merges.getElem?_of_not_matched unlike
  | updated merges differ writes =>
      rw [← merges.getElem?_of_not_matched unlike]
      obtain ⟨old, stored, matched, remains, _⟩ := merges.matching_write coherent writes
      rw [Store.getElem?_of_write writes remains]
      split
      next here =>
        obtain ⟨rfl, rfl⟩ := here
        rw [remains, Option.some.injEq, Option.some.injEq]
        constructor
        · intro same
          rw [← same] at unlike
          exact absurd (coherent.matched_written merges.found stored matched) (unlike rfl)
        · intro same
          rw [← same] at unlike
          exact absurd matched (unlike rfl)
      next => rfl

end DesiredRecord

end TenantGuard
