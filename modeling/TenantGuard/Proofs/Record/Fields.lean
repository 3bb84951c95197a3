import TenantGuard.Record.Desired

/-!
# Fields of records

What the operations on records do to a single field: storing, overwriting and
restricting are each described by one equation.  Criteria look at nothing but
fields, so a record that meets a logical key goes on meeting it when some of its
fields are overwritten by those of a record that meets it as well.
-/

namespace TenantGuard

namespace Values

variable (values changes : Values) (field : String)

@[simp] theorem getElem?_normalized :
    values.normalized[field]? = values[field]?.map FieldValue.normalized := by
  simp only [normalized, Std.ExtTreeMap.getElem?_map]

@[simp] theorem read_normalized :
    values.normalized.read field = (values.read field).normalized := by
  rw [read, read, getElem?_normalized]
  cases values[field]? with
  | none => rfl
  | some value => rfl

/-- An overwritten field is that of the other record, if that has it. -/
theorem getElem?_overwrite :
    (values.overwrite changes)[field]? = changes[field]?.or values[field]? := by
  rw [overwrite]
  cases present : changes[field]? with
  | some value =>
      rw [Option.some_or]
      apply Std.ExtTreeMap.getElem?_insertMany_list_of_mem
      · exact Std.ReflCmp.compare_self
      · exact Std.ExtTreeMap.distinct_keys_toList
      · exact Std.ExtTreeMap.mem_toList_iff_getElem?_eq_some.mpr present
  | none =>
      rw [Option.none_or]
      apply Std.ExtTreeMap.getElem?_insertMany_list_of_contains_eq_false
      rw [Std.ExtTreeMap.map_fst_toList_eq_keys, Std.ExtTreeMap.contains_keys]
      rw [Std.ExtTreeMap.contains_eq_isSome_getElem?, present]
      rfl

@[simp] theorem overwrite_empty : values.overwrite ∅ = values := by
  apply Std.ExtTreeMap.ext_getElem?
  intro field
  rw [getElem?_overwrite, Std.ExtTreeMap.getElem?_empty, Option.none_or]

theorem getElem?_restrict (fields : List String) :
    (values.restrict fields)[field]? = if field ∈ fields then values[field]? else none := by
  rw [restrict, Std.ExtTreeMap.getElem?_filter']
  by_cases listed : field ∈ fields
  · cases values[field]? with
    | none => simp
    | some value => simp [Option.filter, listed]
  · cases values[field]? with
    | none => simp
    | some value => simp [Option.filter, listed]

/-- A field that was read with a value other than null is there. -/
theorem getElem?_of_read {value : FieldValue} (readsValue : values.read field = value)
    (notNull : value ≠ .null) : values[field]? = some value := by
  rw [read] at readsValue
  cases present : values[field]? with
  | none =>
      rw [present] at readsValue
      exact absurd readsValue.symm notNull
  | some stored =>
      rw [present] at readsValue
      exact congrArg some readsValue

theorem read_of_getElem? {value : FieldValue} (present : values[field]? = some value) :
    values.read field = value := by
  rw [read, present]
  rfl

/-- A record written down field by field has exactly the fields written down. -/
theorem getElem?_ofList {fields : List (String × FieldValue)}
    (distinct : (fields.map (·.1)).Nodup) {field : String} {value : FieldValue} :
    (Std.ExtTreeMap.ofList fields : Values)[field]? = some value ↔ (field, value) ∈ fields := by
  constructor
  · intro present
    by_cases listed : field ∈ fields.map (·.1)
    · obtain ⟨⟨other, stored⟩, membership, rfl⟩ := List.mem_map.mp listed
      have found : (Std.ExtTreeMap.ofList fields : Values)[other]? = some stored :=
        Std.ExtTreeMap.getElem?_ofList_of_mem Std.ReflCmp.compare_self
          (by simpa [List.Nodup, List.pairwise_map] using distinct) membership
      rw [found] at present
      cases present
      exact membership
    · rw [Std.ExtTreeMap.getElem?_ofList_of_contains_eq_false (by simpa using listed)] at present
      cases present
  · intro membership
    exact Std.ExtTreeMap.getElem?_ofList_of_mem Std.ReflCmp.compare_self
      (by simpa [List.Nodup, List.pairwise_map] using distinct) membership

/-- The mark of archived records is a field like any other. -/
theorem active_congr {values others : Values}
    (same : values[("active" : String)]? = others[("active" : String)]?) :
    values.active = others.active := by
  rw [active, active, same]

end Values

namespace Criterion

/-- The field that a criterion is about. -/
def field : Criterion → String
  | .eq field _ | .isEmpty field | .contains field _ => field

/-- Whether a criterion accepts a value of its field. -/
def accepts : Criterion → FieldValue → Bool
  | .eq _ wanted, value => value = wanted
  | .isEmpty _, value => value.isEmptyRelation
  | .contains _ id, .refs ids => ids.contains id
  | .contains _ _, _ => false

/-- A criterion depends on the value of its field only. -/
theorem holds_eq_accepts (values : Values) (criterion : Criterion) :
    holds values criterion = criterion.accepts (values.read criterion.field) := by
  cases criterion with
  | eq field value => rfl
  | isEmpty field => rfl
  | contains field id =>
      rw [holds, Criterion.field]
      cases values.read field <;> rfl

/-- A record that meets criteria has a value that each of them accepts. -/
theorem accepts_of_allHold {criteria : List Criterion} {values : Values}
    (met : allHold criteria values) {criterion : Criterion} (listed : criterion ∈ criteria) :
    criterion.accepts (values.read criterion.field) := by
  rw [allHold, List.all_eq_true] at met
  rw [← holds_eq_accepts]
  exact met criterion listed

/-- A record that meets criteria still does after some of its fields were
overwritten by those of another record that meets them. -/
theorem allHold_overwrite {criteria : List Criterion} {values changes wanted : Values}
    (before : allHold criteria values) (own : allHold criteria wanted)
    (taken : ∀ (field : String) (value : FieldValue),
      changes[field]? = some value → wanted[field]? = some value) :
    allHold criteria (values.overwrite changes) := by
  rw [allHold, List.all_eq_true] at before own ⊢
  intro criterion listed
  cases changed : changes[criterion.field]? with
  | none =>
      rw [← before criterion listed, holds_eq_accepts, holds_eq_accepts values, Values.read,
        Values.getElem?_overwrite, changed, Option.none_or, ← Values.read]
  | some value =>
      rw [← own criterion listed, holds_eq_accepts, holds_eq_accepts wanted, Values.read,
        Values.getElem?_overwrite, changed, Option.some_or, Values.read,
        taken criterion.field value changed]

end Criterion

end TenantGuard
