import TenantGuard.Proofs.Engine.Settling
import TenantGuard.Proofs.Store.Reachable

/-!
# What settling leaves

A desired record is settled if there is one record under its key, which carries every
desired value, or a conflict and the records as they were.  Settling it again then finds
what was left there and changes nothing.
-/

namespace TenantGuard.DesiredRecord

/-- A record carries every desired value; relations are compared as sets. -/
def CarriedBy (desired : DesiredRecord) (values : Values) : Prop :=
  ∀ (field : String) (value : FieldValue), desired.values[field]? = some value →
    ∃ stored, values[field]? = some stored ∧ stored.normalized = value.normalized

/-- What is left under a key, given what was found there and the outcome. -/
inductive Settled (desired : DesiredRecord) (found : RecordTable) :
    RecordOutcome → RecordTable → Prop where
  | standing {outcome : RecordOutcome} {id : RecordId} {values : Values}
      (named : outcome.id? = some id) (carried : desired.CarriedBy values) :
      Settled desired found outcome (.single id values)
  | conflicting (several : 2 ≤ found.size) (differ : desired.disagreements found ≠ []) :
      Settled desired found (.conflict (desired.conflictOf found)) found

variable {desired other : DesiredRecord} {before after : Store} {outcome : RecordOutcome}

/-- A desired field is to be written if the first record does not have its value. -/
theorem getElem?_changesOf {found : RecordTable} {kept : RecordId} {values : Values}
    {copies : List RecordId} (first : found.keys = kept :: copies)
    (stored : found[kept]? = some values) (field : String) :
    (desired.changesOf found)[field]? =
      desired.values[field]?.filter fun value => (values.read field).normalized ≠ value := by
  have head : (desired.rows found).headD ∅ = (values.restrict desired.fields).normalized := by
    rw [← Std.ExtTreeMap.map_fst_toList_eq_keys] at first
    obtain ⟨⟨id, row⟩, others, equal, rfl, _⟩ := List.map_eq_cons_iff.mp first
    have present : found[id]? = some row := by
      rw [← Std.ExtTreeMap.mem_toList_iff_getElem?_eq_some, equal]
      exact List.mem_cons_self
    rw [stored, Option.some.injEq] at present
    rw [rows, equal, present]
    rfl
  rw [changesOf, Reconcile.changes, head, Std.ExtTreeMap.getElem?_filter']
  cases wanted : desired.values[field]? with
  | none => rfl
  | some value =>
      have listed : field ∈ desired.fields := by
        rw [fields, Std.ExtTreeMap.mem_keys, Std.ExtTreeMap.mem_iff_isSome_getElem?, wanted]
        rfl
      have sameRead : (values.restrict desired.fields).read field = values.read field := by
        rw [Values.read, Values.getElem?_restrict, if_pos listed, ← Values.read]
      simp only [Option.filter_some, Values.read_normalized, sameRead]

/-- A record carries the desired values if none of them is to be written. -/
theorem Coherent.carriedBy_of_read (coherent : desired.Coherent) {values : Values}
    (same : ∀ (field : String) (value : FieldValue), desired.values[field]? = some value →
      (values.read field).normalized = value) : desired.CarriedBy values := by
  intro field value wanted
  have equal := same field value wanted
  refine ⟨values.read field, ?_, ?_⟩
  · apply Values.getElem?_of_read _ _ rfl
    intro isNull
    rw [isNull] at equal
    rw [← equal] at wanted
    exact coherent.notNull field wanted
  · rw [equal, coherent.normalized field value wanted]

theorem Coherent.read_of_carriedBy (coherent : desired.Coherent) {values : Values}
    (carried : desired.CarriedBy values) {field : String} {value : FieldValue}
    (wanted : desired.values[field]? = some value) : (values.read field).normalized = value := by
  obtain ⟨stored, present, same⟩ := carried field value wanted
  rw [Values.read_of_getElem? _ _ present, same, coherent.normalized field value wanted]

/-- Nothing is to be written exactly if the first record carries the desired values. -/
theorem Coherent.changesOf_eq_empty_iff (coherent : desired.Coherent) {found : RecordTable}
    {kept : RecordId} {values : Values} {copies : List RecordId}
    (first : found.keys = kept :: copies) (stored : found[kept]? = some values) :
    desired.changesOf found = ∅ ↔ desired.CarriedBy values := by
  constructor
  · intro same
    apply coherent.carriedBy_of_read
    intro field value wanted
    have unchanged : (desired.changesOf found)[field]? = _ :=
      getElem?_changesOf first stored field
    rw [same, Std.ExtTreeMap.getElem?_empty, wanted, Option.filter_some] at unchanged
    simpa using unchanged
  · intro carried
    apply Std.ExtTreeMap.ext_getElem?
    intro field
    rw [getElem?_changesOf first stored, Std.ExtTreeMap.getElem?_empty]
    cases wanted : desired.values[field]? with
    | none => rfl
    | some value => simp [coherent.read_of_carriedBy carried wanted]

theorem Coherent.changesOf_single (coherent : desired.Coherent) {id : RecordId}
    {values : Values} (carried : desired.CarriedBy values) :
    desired.changesOf (.single id values) = ∅ :=
  (coherent.changesOf_eq_empty_iff RecordTable.keys_single
    (by rw [RecordTable.getElem?_single, if_pos rfl])).mpr carried

theorem Coherent.matched_normalized (coherent : desired.Coherent) :
    desired.matched desired.values.normalized := by
  rw [coherent.normalized_values]
  exact coherent.matched_values

/-- What is written to the first record are desired values. -/
theorem Coherent.getElem?_normalized_changesOf (coherent : desired.Coherent)
    {found : RecordTable} {kept : RecordId} {values : Values} {copies : List RecordId}
    (first : found.keys = kept :: copies) (stored : found[kept]? = some values)
    (field : String) :
    (desired.changesOf found).normalized[field]? =
      desired.values[field]?.filter fun value => (values.read field).normalized ≠ value := by
  rw [Values.getElem?_normalized, getElem?_changesOf first stored]
  cases wanted : desired.values[field]? with
  | none => rfl
  | some value =>
      rw [Option.filter_some]
      split
      · rw [Option.map_some, coherent.normalized field value wanted]
      · rfl

/-- After the write the record is still under the key. -/
theorem Coherent.matched_written (coherent : desired.Coherent)
    {found : RecordTable} {kept : RecordId} {values : Values} {copies : List RecordId}
    (first : found.keys = kept :: copies) (stored : found[kept]? = some values)
    (matched : desired.matched values) :
    desired.matched (values.overwrite (desired.changesOf found).normalized) := by
  apply coherent.matched_overwrite matched
  intro field value changed
  rw [coherent.getElem?_normalized_changesOf first stored, Option.filter_eq_some_iff] at changed
  exact changed.1

/-- After the write the record carries the desired values. -/
theorem Coherent.carriedBy_written (coherent : desired.Coherent)
    {found : RecordTable} {kept : RecordId} {values : Values} {copies : List RecordId}
    (first : found.keys = kept :: copies) (stored : found[kept]? = some values) :
    desired.CarriedBy (values.overwrite (desired.changesOf found).normalized) := by
  apply coherent.carriedBy_of_read
  intro field value wanted
  have changed := coherent.getElem?_normalized_changesOf first stored field
  rw [wanted, Option.filter_some] at changed
  rw [Values.read, Values.getElem?_overwrite, changed]
  split
  next differs => exact coherent.normalized field value wanted
  next same =>
    rw [Option.none_or, ← Values.read]
    simpa using same

/-- The write to the kept record, seen under the key. -/
theorem Merges.matching_write (coherent : desired.Coherent) {between : Store}
    {kept : RecordId} {copies : List RecordId}
    (merges : desired.Merges before kept copies between)
    (writes : between.write desired.kind kept
      (desired.changesOf (before.matching desired)) = (.ok (), after)) :
    ∃ values, (before.matching desired)[kept]? = some values ∧ desired.matched values ∧
      (between.data.records desired.kind)[kept]? = some values ∧
      after = { between.putRecord desired.kind kept
          (values.overwrite (desired.changesOf (before.matching desired)).normalized) with
        counts.writes := between.counts.writes + 1 } ∧
      after.matching desired = .single kept
        (values.overwrite (desired.changesOf (before.matching desired)).normalized) := by
  obtain ⟨values, stored, single⟩ := merges.single
  have matched := (RecordTable.getElem?_matching_eq_some.mp stored).2
  have remaining : (between.matching desired)[kept]? = some values := by
    rw [single, RecordTable.getElem?_single, if_pos rfl]
  have present := (RecordTable.getElem?_matching_eq_some.mp remaining).1
  obtain ⟨current, presentCurrent, equal⟩ := Store.write_eq_ok writes
  rw [present, Option.some.injEq] at presentCurrent
  rw [← presentCurrent] at equal
  refine ⟨values, stored, matched, present, equal, ?_⟩
  rw [equal]
  change (between.putRecord desired.kind kept _).matching desired = _
  rw [Store.matching_putRecord_self (coherent.matched_written merges.found stored matched), single,
    RecordTable.insert_single]

end TenantGuard.DesiredRecord

namespace TenantGuard

/-- What becomes of a record that is settled once more. -/
def RecordOutcome.repeated : RecordOutcome → RecordOutcome
  | .created id | .updated id _ | .unchanged id _ => .unchanged id []
  | .conflict conflicting => .conflict conflicting

theorem RecordOutcome.repeated_of_id? {outcome : RecordOutcome} {id : RecordId}
    (named : outcome.id? = some id) : outcome.repeated = .unchanged id [] := by
  cases outcome with
  | conflict => cases named
  | created | updated | unchanged =>
      cases named
      rfl

namespace DesiredRecord

variable {desired : DesiredRecord} {before after : Store} {first second : RecordOutcome}
  {found : RecordTable}

/-- Settling a settled record again leaves the store as it is. -/
theorem Settled.again (coherent : desired.Coherent)
    (settled : desired.Settled found first (before.matching desired))
    (settles : desired.Settles before second after) :
    after = before ∧ second = first.repeated := by
  generalize seen : before.matching desired = left at settled
  cases settled with
  | @standing _ id values named carried =>
      have keys : (before.matching desired).keys = [id] := by
        rw [seen, RecordTable.keys_single]
      rw [RecordOutcome.repeated_of_id? named]
      cases settles with
      | created missing =>
          rw [missing] at keys
          cases keys
      | conflicting found several =>
          rw [keys, List.cons.injEq] at found
          exact absurd found.2.symm several
      | @unchanged _ kept copies merges =>
          have same := keys.symm.trans merges.found
          rw [List.cons.injEq] at same
          obtain ⟨rfl, rfl⟩ := same
          exact ⟨merges.left, rfl⟩
      | updated merges differ =>
          rw [seen, coherent.changesOf_single carried] at differ
          exact absurd rfl differ
  | conflicting several differ =>
      rw [← Std.ExtTreeMap.length_keys] at several
      have reduced : ∀ {kept copies between}, ¬ desired.Merges before kept copies between := by
        intro kept copies between merges
        apply differ
        rw [← seen]
        apply merges.agree
        rintro rfl
        rw [← seen, merges.found] at several
        exact absurd several (by simp)
      cases settles with
      | created missing =>
          rw [← seen, missing] at several
          exact absurd several (by simp)
      | conflicting => exact ⟨rfl, by rw [seen]; rfl⟩
      | unchanged merges => exact absurd merges reduced
      | updated merges => exact absurd merges reduced

end DesiredRecord

end TenantGuard
