import TenantGuard.Engine.Reconcile
import TenantGuard.Proofs.Record.Keys

/-!
# The records under a logical key

The records that a desired record is compared with are the active ones under its
key.  A write to the store shows in them only if it touches such a record: what is
written under one key leaves the records under all keys apart from it as they
were.
-/

namespace TenantGuard

namespace RecordTable

variable {table : RecordTable} {found : Values → Bool} {id : RecordId} {values : Values}

/-- A table lists its records in the order of their ids. -/
theorem ascending_keys (table : RecordTable) : table.keys.Pairwise (· < ·) :=
  Std.ExtTreeMap.ordered_keys.imp Int.compare_eq_lt.mp

theorem mem_iff_stored : id ∈ table ↔ ∃ values, table[id]? = some values := by
  rw [Std.ExtTreeMap.mem_iff_isSome_getElem?, Option.isSome_iff_exists]

theorem mem_of_stored (stored : table[id]? = some values) : id ∈ table :=
  mem_iff_stored.mpr ⟨values, stored⟩

/-- The records that are found. -/
def matching (table : RecordTable) (found : Values → Bool) : RecordTable :=
  table.filter fun _ values => found values

@[simp] theorem getElem?_matching :
    (table.matching found)[id]? = table[id]?.filter found :=
  Std.ExtTreeMap.getElem?_filter'

theorem getElem?_matching_eq_some :
    (table.matching found)[id]? = some values ↔ table[id]? = some values ∧ found values := by
  rw [getElem?_matching, Option.filter_eq_some_iff]

/-- A record that is not found, under an id that was not found either, does not
show. -/
theorem matching_insert_of_not
    (old : ∀ values, table[id]? = some values → ¬ found values) (new : ¬ found values) :
    RecordTable.matching (table.insert id values) found = table.matching found := by
  apply Std.ExtTreeMap.ext_getElem?
  intro other
  rw [getElem?_matching, getElem?_matching, Std.ExtTreeMap.getElem?_insert]
  split
  next same =>
    rw [← Std.LawfulEqOrd.eq_of_compare same, Option.filter_some, if_neg new]
    cases present : table[id]? with
    | none => rfl
    | some values => rw [Option.filter_some, if_neg (old values present)]
  next => rfl

/-- A record that is found takes the place of the one that was. -/
theorem matching_insert_of_found (new : found values) :
    RecordTable.matching (table.insert id values) found =
      (table.matching found).insert id values := by
  apply Std.ExtTreeMap.ext_getElem?
  intro other
  rw [getElem?_matching, Std.ExtTreeMap.getElem?_insert, Std.ExtTreeMap.getElem?_insert]
  split
  next => rw [Option.filter_some, if_pos new]
  next => rw [getElem?_matching]

/-- The table without the records of the listed ids. -/
def without (table : RecordTable) (ids : List RecordId) : RecordTable :=
  table.filter fun id _ => ¬ ids.contains id

theorem getElem?_without {ids : List RecordId} :
    (table.without ids)[id]? = if id ∈ ids then none else table[id]? := by
  rw [without, Std.ExtTreeMap.getElem?_filter']
  cases table[id]? with
  | none => simp
  | some values =>
      by_cases listed : id ∈ ids
      · simp [listed]
      · simp [listed]

theorem matching_without {ids : List RecordId} :
    (table.without ids).matching found = (table.matching found).without ids := by
  apply Std.ExtTreeMap.ext_getElem?
  intro id
  rw [getElem?_matching, getElem?_without, getElem?_without, getElem?_matching]
  split
  · rfl
  · rfl

/-- Leaving out ids that are not there changes nothing. -/
theorem without_of_not_mem {ids : List RecordId} (unlisted : ∀ id ∈ ids, id ∉ table) :
    table.without ids = table := by
  apply Std.ExtTreeMap.ext_getElem?
  intro id
  rw [getElem?_without]
  split
  next listed => exact (Std.ExtTreeMap.getElem?_eq_none (unlisted id listed)).symm
  next => rfl

/-- The only record that is found. -/
def single (id : RecordId) (values : Values) : RecordTable :=
  (∅ : RecordTable).insert id values

theorem getElem?_single {other : RecordId} :
    (single id values)[other]? = if id = other then some values else none := by
  rw [single, Std.ExtTreeMap.getElem?_insert]
  simp

@[simp] theorem toList_single : (single id values).toList = [(id, values)] := by
  have length : (single id values).toList.length = 1 := by
    rw [Std.ExtTreeMap.length_toList, single, Std.ExtTreeMap.size_insert]
    simp
  obtain ⟨⟨other, stored⟩, equal⟩ := List.length_eq_one_iff.mp length
  have membership : (id, values) ∈ (single id values).toList := by
    rw [Std.ExtTreeMap.mem_toList_iff_getElem?_eq_some, getElem?_single, if_pos rfl]
  rw [equal, List.mem_singleton] at membership
  rw [equal, membership]

@[simp] theorem keys_single : (single id values).keys = [id] := by
  rw [← Std.ExtTreeMap.map_fst_toList_eq_keys, toList_single]
  rfl

theorem mem_single {other : RecordId} : other ∈ single id values ↔ other = id := by
  rw [← Std.ExtTreeMap.mem_keys, keys_single, List.mem_singleton]

theorem insert_single {others : Values} :
    (single id values).insert id others = single id others := by
  apply Std.ExtTreeMap.ext_getElem?
  intro other
  rw [Std.ExtTreeMap.getElem?_insert, getElem?_single, getElem?_single]
  split
  next same => rw [if_pos (Std.LawfulEqOrd.eq_of_compare same)]
  next different =>
    have unlike : id ≠ other := by
      rintro rfl
      exact different Std.ReflCmp.compare_self
    rw [if_neg unlike, if_neg unlike]

/-- A table with one key holds one record. -/
theorem eq_single_of_keys (only : table.keys = [id]) : ∃ values, table = single id values := by
  rw [← Std.ExtTreeMap.map_fst_toList_eq_keys] at only
  obtain ⟨⟨other, values⟩, others, equal, rfl, none⟩ := List.map_eq_cons_iff.mp only
  rw [List.map_eq_nil_iff.mp none] at equal
  refine ⟨values, Std.ExtTreeMap.toList_inj.mp ?_⟩
  rw [equal, toList_single]

theorem ne_empty_of_keys {others : List RecordId} (listed : table.keys = id :: others) :
    table ≠ ∅ := by
  rintro rfl
  cases listed

/-- A table holds several records if there are others behind the first. -/
theorem two_le_size {others : List RecordId} (listed : table.keys = id :: others) :
    2 ≤ table.size ↔ others ≠ [] := by
  rw [← Std.ExtTreeMap.length_keys, listed, List.length_cons, ← List.length_pos_iff]
  exact Nat.succ_le_succ_iff

end RecordTable

namespace Store

/-- The active records under the key of a desired record. -/
def matching (store : Store) (desired : DesiredRecord) : RecordTable :=
  RecordTable.matching (store.data.records desired.kind) desired.matched

end Store

namespace Reconcile

variable {fields : List String} {rows : List Values}

/-- A field differs if two of the rows are not alike in it. -/
theorem mem_differingFields {field : String} :
    field ∈ differingFields fields rows ↔
      field ∈ fields ∧ ∃ row ∈ rows, ∃ other ∈ rows, row[field]? ≠ other[field]? := by
  cases rows with
  | nil => simp [differingFields]
  | cons first others =>
      rw [differingFields, List.mem_filter, List.any_eq_true]
      constructor
      · rintro ⟨listed, row, inOthers, unlike⟩
        exact ⟨listed, row, List.mem_cons_of_mem _ inOthers, first, List.mem_cons_self,
          of_decide_eq_true unlike⟩
      · rintro ⟨listed, row, inRows, other, inRowsToo, unlike⟩
        refine ⟨listed, ?_⟩
        -- Of two rows that are not alike, one is not like the first.
        by_cases likeFirst : row[field]? = first[field]?
        · have different : other[field]? ≠ first[field]? := by
            rw [← likeFirst]
            exact Ne.symm unlike
          rcases List.mem_cons.mp inRowsToo with rfl | inOthers
          · exact absurd rfl different
          · exact ⟨other, inOthers, decide_eq_true different⟩
        · rcases List.mem_cons.mp inRows with rfl | inOthers
          · exact absurd rfl likeFirst
          · exact ⟨row, inOthers, decide_eq_true likeFirst⟩

/-- No field differs exactly if all rows agree in every field. -/
theorem differingFields_eq_nil_iff :
    differingFields fields rows = [] ↔
      ∀ field ∈ fields, ∀ row ∈ rows, ∀ other ∈ rows, row[field]? = other[field]? := by
  simp [List.eq_nil_iff_forall_not_mem, mem_differingFields]

/-- The fields that differ stand in the order of all fields. -/
theorem differingFields_sublist : (differingFields fields rows).Sublist fields := by
  cases rows with
  | nil => exact List.nil_sublist fields
  | cons first others => exact List.filter_sublist

end Reconcile

namespace DesiredRecord

/-- What is read of the records under a key. -/
def rows (desired : DesiredRecord) (found : RecordTable) : List Values :=
  found.toList.map fun entry => (entry.2.restrict desired.fields).normalized

/-- The fields in which the records under a key differ. -/
def disagreements (desired : DesiredRecord) (found : RecordTable) : List String :=
  Reconcile.differingFields desired.fields (desired.rows found)

/-- The conflict that the records under a key are reported as. -/
def conflictOf (desired : DesiredRecord) (found : RecordTable) : Conflict where
  kind := desired.kind
  count := found.keys.length
  criteria := desired.criteria
  fields := desired.disagreements found
  ids := found.keys

/-- The fields to be written to the first of the records under a key. -/
def changesOf (desired : DesiredRecord) (found : RecordTable) : Values :=
  Reconcile.changes ((desired.rows found).headD ∅) desired.values

/-- A desired field as it is read of a record. -/
theorem getElem?_row {desired : DesiredRecord} {field : String} (listed : field ∈ desired.fields)
    (values : Values) :
    (values.restrict desired.fields).normalized[field]? =
      values[field]?.map FieldValue.normalized := by
  rw [Values.getElem?_normalized, Values.getElem?_restrict, if_pos listed]

/-- The records under a key agree exactly if each desired field is the same in all of
them, with relations compared as sets. -/
theorem disagreements_eq_nil_iff {desired : DesiredRecord} {found : RecordTable} :
    desired.disagreements found = [] ↔
      ∀ field ∈ desired.fields, ∀ (id other : RecordId) (values stored : Values),
        found[id]? = some values → found[other]? = some stored →
          values[field]?.map FieldValue.normalized = stored[field]?.map FieldValue.normalized := by
  rw [disagreements, Reconcile.differingFields_eq_nil_iff]
  constructor
  · intro agree field listed id other values stored isFound isFoundToo
    rw [← Std.ExtTreeMap.mem_toList_iff_getElem?_eq_some] at isFound isFoundToo
    rw [← getElem?_row listed, ← getElem?_row listed]
    exact agree field listed _ (List.mem_map_of_mem isFound) _ (List.mem_map_of_mem isFoundToo)
  · intro agree field listed row inRows other inRowsToo
    obtain ⟨⟨id, values⟩, isFound, rfl⟩ := List.mem_map.mp inRows
    obtain ⟨⟨otherId, stored⟩, isFoundToo, rfl⟩ := List.mem_map.mp inRowsToo
    rw [Std.ExtTreeMap.mem_toList_iff_getElem?_eq_some] at isFound isFoundToo
    rw [getElem?_row listed, getElem?_row listed]
    exact agree field listed id otherId values stored isFound isFoundToo

/-- A record on its own agrees with itself. -/
theorem disagreements_single (desired : DesiredRecord) (id : RecordId) (values : Values) :
    desired.disagreements (.single id values) = [] := by
  rw [disagreements, rows, RecordTable.toList_single]
  exact List.filter_eq_nil_iff.mpr fun _ _ => Bool.false_ne_true

end DesiredRecord

namespace Store

open DesiredRecord

variable {store after : Store} {desired other : DesiredRecord} {kind : RecordKind}
  {id : RecordId} {values : Values}

/-- Reading the records that a search found gives their fields. -/
theorem read_matching (store : Store) (desired : DesiredRecord) :
    (store.matching desired).keys.mapM (store.read desired.kind desired.fields) =
      .ok ((store.matching desired).toList.map fun entry =>
        entry.2.restrict desired.fields) := by
  rw [Except.mapM_eq_ok, ← Std.ExtTreeMap.map_fst_toList_eq_keys, List.map_map, List.map_map]
  apply List.map_congr_left
  rintro ⟨id, values⟩ membership
  rw [Std.ExtTreeMap.mem_toList_iff_getElem?_eq_some, matching,
    RecordTable.getElem?_matching_eq_some] at membership
  simp only [Function.comp_apply, read, membership.1]

/-- A store rejects what it was told to, and only for the entity type that it is about. -/
theorem rejectedModel?_eq_some_iff {model : RecordId} :
    store.rejectedModel? kind values = some model ↔
      values.read "model_id" = .ref model ∧ (kind, model) ∈ store.rejectedWrites := by
  rw [rejectedModel?]
  split
  next named about =>
    rw [about]
    split
    next listed =>
      constructor
      · rintro ⟨⟩
        exact ⟨rfl, listed⟩
      · rintro ⟨⟨⟩, _⟩
        rfl
    next unlisted =>
      constructor
      · rintro ⟨⟩
      · rintro ⟨⟨⟩, listed⟩
        exact absurd listed unlisted
  next unnamed =>
    constructor
    · rintro ⟨⟩
    · rintro ⟨about, _⟩
      exact absurd about (unnamed model)

/-- What a store rejects depends on what it was told to reject. -/
theorem rejectedModel?_congr (same : after.rejectedWrites = store.rejectedWrites) :
    after.rejectedModel? kind values = store.rejectedModel? kind values := by
  rw [rejectedModel?, rejectedModel?, same]

/-- Only a refusal keeps a record from being created. -/
theorem create_eq_error {cause : StoreError}
    (failed : (store.create kind values).1 = .error cause) :
    ∃ model, store.rejectedModel? kind values = some model ∧
      cause = .writeRejected kind model := by
  rw [create] at failed
  split at failed
  next model rejected =>
    cases failed
    exact ⟨model, rejected, rfl⟩
  · cases failed

theorem create_eq_ok (created : store.create kind values = (.ok id, after)) :
    id = store.lastId + 1 ∧
      after = { (store.insertRecord kind values.normalized).2 with
        counts.creates := store.counts.creates + 1 } := by
  rw [create] at created
  split at created
  · cases created
  · cases created
    exact ⟨rfl, rfl⟩

/-- What was created was not refused. -/
theorem accepted_of_create (created : store.create kind values = (.ok id, after)) :
    store.rejectedModel? kind values = none := by
  rw [create] at created
  split at created
  · cases created
  next accepted => exact accepted

/-- A record that is there can be written, unless the store refuses. -/
theorem write_eq_error {cause : StoreError} {current : Values}
    (present : (store.data.records kind)[id]? = some current)
    (failed : (store.write kind id values).1 = .error cause) :
    ∃ model, store.rejectedModel? kind current = some model ∧
      cause = .writeRejected kind model := by
  rw [write, present] at failed
  dsimp only at failed
  split at failed
  next model rejected =>
    cases failed
    exact ⟨model, rejected, rfl⟩
  · cases failed

theorem write_eq_ok (written : store.write kind id values = (.ok (), after)) :
    ∃ current, (store.data.records kind)[id]? = some current ∧
      after = { store.putRecord kind id (current.overwrite values.normalized) with
        counts.writes := store.counts.writes + 1 } := by
  rw [write] at written
  split at written
  · cases written
  next current present =>
    split at written
    · cases written
    · cases written
      exact ⟨current, present, rfl⟩

/-- What was written was not refused. -/
theorem accepted_of_write {current : Values}
    (present : (store.data.records kind)[id]? = some current)
    (written : store.write kind id values = (.ok (), after)) :
    store.rejectedModel? kind current = none := by
  rw [write, present] at written
  dsimp only at written
  split at written
  · cases written
  next accepted => exact accepted

theorem records_putRecord_self :
    (store.putRecord kind id values).data.records kind =
      (store.data.records kind).insert id values :=
  StoreData.records_withRecords_self _ _ _

theorem records_putRecord_of_ne {unlike : RecordKind} (different : unlike ≠ kind) :
    (store.putRecord kind id values).data.records unlike = store.data.records unlike :=
  StoreData.records_withRecords_of_ne _ _ different

theorem records_unlink_self {ids : List RecordId} :
    (store.unlink kind ids).data.records kind =
      (store.data.records kind).without ids := by
  cases kind <;> rfl

theorem records_unlink_of_ne {ids : List RecordId} {unlike : RecordKind}
    (different : unlike ≠ kind) :
    (store.unlink kind ids).data.records unlike = store.data.records unlike := by
  cases kind <;> cases unlike <;> first | rfl | exact absurd rfl different

/-- A record that is put takes the place of one record at most. -/
theorem getElem?_putRecord {otherKind : RecordKind} {otherId : RecordId} :
    ((store.putRecord kind id values).data.records otherKind)[otherId]? =
      if kind = otherKind ∧ id = otherId then some values
      else (store.data.records otherKind)[otherId]? := by
  by_cases sameKind : kind = otherKind
  · rw [← sameKind, records_putRecord_self, Std.ExtTreeMap.getElem?_insert]
    simp
  · rw [records_putRecord_of_ne (Ne.symm sameKind)]
    simp [sameKind]

/-- Removing records leaves those that are not listed. -/
theorem getElem?_unlink {ids : List RecordId} {otherKind : RecordKind} {otherId : RecordId} :
    ((store.unlink kind ids).data.records otherKind)[otherId]? =
      if kind = otherKind ∧ otherId ∈ ids then none
      else (store.data.records otherKind)[otherId]? := by
  by_cases sameKind : kind = otherKind
  · rw [← sameKind, records_unlink_self, RecordTable.getElem?_without]
    simp
  · rw [records_unlink_of_ne (Ne.symm sameKind)]
    simp [sameKind]

/-- The records after one has been created. -/
theorem getElem?_of_create (created : store.create kind values = (.ok id, after))
    {otherKind : RecordKind} {otherId : RecordId} :
    (after.data.records otherKind)[otherId]? =
      if kind = otherKind ∧ id = otherId then some values.normalized
      else (store.data.records otherKind)[otherId]? := by
  obtain ⟨rfl, rfl⟩ := create_eq_ok created
  exact getElem?_putRecord

/-- The records after one has been written. -/
theorem getElem?_of_write (written : store.write kind id values = (.ok (), after))
    {current : Values} (present : (store.data.records kind)[id]? = some current)
    {otherKind : RecordKind} {otherId : RecordId} :
    (after.data.records otherKind)[otherId]? =
      if kind = otherKind ∧ id = otherId then some (current.overwrite values.normalized)
      else (store.data.records otherKind)[otherId]? := by
  obtain ⟨other, stored, rfl⟩ := write_eq_ok written
  rw [present, Option.some.injEq] at stored
  rw [stored]
  exact getElem?_putRecord

/-- A record put under a key shows under it. -/
theorem matching_putRecord_self (found : desired.matched values) :
    (store.putRecord desired.kind id values).matching desired =
      (store.matching desired).insert id values := by
  rw [matching, records_putRecord_self]
  exact RecordTable.matching_insert_of_found found

/-- A record that is found under a key is an active one that meets it. -/
theorem matched_of_mem_matching (found : id ∈ store.matching desired)
    (stored : (store.data.records desired.kind)[id]? = some values) : desired.matched values := by
  obtain ⟨other, seen⟩ := RecordTable.mem_iff_stored.mp found
  obtain ⟨present, matched⟩ := RecordTable.getElem?_matching_eq_some.mp seen
  rw [stored, Option.some.injEq] at present
  rw [present]
  exact matched

/-- Removing records under a key does not show under the keys apart from it. -/
theorem matching_unlink_of_apart (apart : desired.Apart other) {ids : List RecordId}
    (found : ∀ id ∈ ids, id ∈ store.matching desired) :
    (store.unlink desired.kind ids).matching other = store.matching other := by
  rw [matching, matching]
  by_cases sameKind : desired.kind = other.kind
  · rw [← sameKind, records_unlink_self, RecordTable.matching_without]
    apply RecordTable.without_of_not_mem
    intro id listed membership
    obtain ⟨values, seen⟩ := RecordTable.mem_iff_stored.mp membership
    obtain ⟨present, matched⟩ := RecordTable.getElem?_matching_eq_some.mp seen
    exact apart sameKind values ⟨matched_of_mem_matching (found id listed) present, matched⟩
  · rw [records_unlink_of_ne (Ne.symm sameKind)]

/-- Once the others are removed, the kept record is the only one under its key. -/
theorem matching_unlink_self {kept : RecordId} {copies : List RecordId}
    (keys : (store.matching desired).keys = kept :: copies)
    (stored : (store.matching desired)[kept]? = some values) :
    (store.unlink desired.kind copies).matching desired = RecordTable.single kept values := by
  have distinct : (kept :: copies).Nodup := by
    rw [← keys]
    exact Std.ExtTreeMap.nodup_keys
  apply Std.ExtTreeMap.ext_getElem?
  intro id
  rw [matching, records_unlink_self, RecordTable.matching_without, RecordTable.getElem?_without,
    RecordTable.getElem?_single, ← matching]
  split
  next listed =>
    have different : kept ≠ id := by
      rintro rfl
      exact (List.nodup_cons.mp distinct).1 listed
    rw [if_neg different]
  next unlisted =>
    split
    next same => rw [← same, stored]
    next different =>
      apply Std.ExtTreeMap.getElem?_eq_none
      rw [← Std.ExtTreeMap.mem_keys, keys, List.mem_cons]
      rintro (same | listed)
      · exact different same.symm
      · exact unlisted listed

end Store

end TenantGuard
