import TenantGuard.Proofs.Engine.Backfill

/-!
# Filling a store

Where a table accepts it, every null in the tenant column gives way to the default tenant.  The
tables are filled one after the other, but each of them, and each of its columns, is what it
would be if it were filled alone.  A store that was filled holds no null that could be filled,
and filled once more it stays as it is.
-/

namespace TenantGuard

namespace Store

variable {store before after : Store} {table column : String} {rows : Column}

theorem insert_of_present {β : Type} {map : Std.ExtTreeMap String β} {key : String} {value : β}
    (present : map[key]? = some value) : map.insert key value = map := by
  apply Std.ExtTreeMap.ext_getElem?
  intro other
  rw [Std.ExtTreeMap.getElem?_insert]
  split
  next same => rw [← Std.LawfulEqOrd.eq_of_compare same, present]
  next => rfl

/-- Putting a column where it already is changes nothing. -/
theorem addTable_of_column? (carried : store.column? table column = some rows) :
    store.addTable table column rows = store := by
  obtain ⟨columns, present, stored⟩ := Option.bind_eq_some_iff.mp carried
  rw [addTable, present, Option.getD_some, insert_of_present stored, insert_of_present present]

/-- The tables that carry a column are listed in ascending order, each once. -/
theorem tablesWithColumn_ascending (store : Store) (column : String) :
    (store.tablesWithColumn column).Pairwise (· < ·) := by
  have ordered : (store.tablesWithColumn column).Pairwise fun first second =>
      compare first second = .lt := Std.ExtTreeMap.ordered_keys
  exact ordered.imp compareOfLessAndEq_eq_lt.mp

theorem nodup_tablesWithColumn (store : Store) (column : String) :
    (store.tablesWithColumn column).Nodup :=
  (store.tablesWithColumn_ascending column).imp String.ne_of_lt

/-- Stores that carry a column in the same tables list the same tables. -/
theorem tablesWithColumn_congr
    (same : ∀ name, (after.column? name column).isSome = (before.column? name column).isSome) :
    after.tablesWithColumn column = before.tablesWithColumn column := by
  apply List.Perm.eq_of_pairwise _ (after.tablesWithColumn_ascending column)
    (before.tablesWithColumn_ascending column)
  · rw [List.perm_ext_iff_of_nodup (after.nodup_tablesWithColumn column)
      (before.nodup_tablesWithColumn column)]
    intro name
    rw [mem_tablesWithColumn, mem_tablesWithColumn, same]
  · intro first second _ _ less greater
    exact absurd greater (String.lt_asymm less)

end Store

namespace Backfill

variable {settings : BackfillSettings} {store before after : Store} {name other column : String}

/-- The store fills a table: its name can stand in a statement, and it does not refuse. -/
def Accepts (store : Store) (name : String) : Prop :=
  Sql.isPlain name ∧ name ∉ store.rejectedTables

instance (store : Store) (name : String) : Decidable (Accepts store name) :=
  inferInstanceAs (Decidable (_ ∧ _))

/-- A column with the default tenant wherever it was null. -/
def filledRows (settings : BackfillSettings) (rows : Column) : Column :=
  rows.map fun row => some (row.getD settings.defaultTenant)

/-- The store with one more table filled, if it accepts that. -/
def fill (settings : BackfillSettings) (store : Store) (name : String) : Store :=
  if Accepts store name then
    match store.column? name settings.column with
    | some rows => store.addTable name settings.column (filledRows settings rows)
    | none => store
  else store

/-- The store with all tables filled that carry the column and accept that. -/
def fillAll (settings : BackfillSettings) (store : Store) : Store :=
  (store.tablesWithColumn settings.column).foldl (fill settings) store

theorem none_not_mem_filledRows (rows : Column) : none ∉ filledRows settings rows := by
  simp [filledRows]

/-- A column without nulls is filled already. -/
theorem filledRows_of_complete {rows : Column} (complete : none ∉ rows) :
    filledRows settings rows = rows := by
  have same : ∀ row ∈ rows, some (row.getD settings.defaultTenant) = id row := by
    intro row listed
    cases row with
    | none => exact absurd listed complete
    | some value => rfl
  rw [filledRows, List.map_congr_left same, List.map_id]

@[simp] theorem filledRows_filledRows (rows : Column) :
    filledRows settings (filledRows settings rows) = filledRows settings rows :=
  filledRows_of_complete (none_not_mem_filledRows rows)

theorem fill_eq_addTable {rows : Column} (accepts : Accepts store name)
    (carried : store.column? name settings.column = some rows) :
    fill settings store name =
      store.addTable name settings.column (filledRows settings rows) := by
  rw [fill, if_pos accepts, carried]

/-- Filling a table touches no other, and no other column. -/
theorem column?_fill :
    (fill settings store name).column? other column =
      if other = name ∧ column = settings.column ∧ Accepts store other then
        (store.column? other column).map (filledRows settings)
      else store.column? other column := by
  by_cases accepts : Accepts store name
  · cases carried : store.column? name settings.column with
    | none =>
        have untouched : fill settings store name = store := by simp [fill, carried]
        rw [untouched]
        split
        next same => rw [same.1, same.2.1, carried, Option.map_none]
        next => rfl
    | some rows =>
        rw [fill_eq_addTable accepts carried, Store.column?_addTable]
        by_cases same : other = name ∧ column = settings.column
        · obtain ⟨rfl, rfl⟩ := same
          rw [if_pos ⟨rfl, rfl⟩, if_pos ⟨rfl, rfl, accepts⟩, carried, Option.map_some]
        · rw [if_neg fun both => same ⟨both.1.symm, both.2.symm⟩,
            if_neg fun all => same ⟨all.1, all.2.1⟩]
  · rw [fill, if_neg accepts, if_neg]
    rintro ⟨rfl, _, acceptsToo⟩
    exact accepts acceptsToo

/-- Filling a table adds the column to no table and takes it from none. -/
theorem isSome_column?_fill :
    ((fill settings store name).column? other column).isSome =
      (store.column? other column).isSome := by
  rw [column?_fill]
  split
  · exact Option.isSome_map
  · rfl

/-- Filling a table changes tables only. -/
theorem fill_frame (settings : BackfillSettings) (store : Store) (name : String) :
    ∃ tables, fill settings store name = { store with data := { store.data with tables } } := by
  rw [fill]
  split
  · split
    · exact ⟨_, rfl⟩
    · exact ⟨_, rfl⟩
  · exact ⟨_, rfl⟩

/-- The tables that refuse stay the same. -/
theorem rejectedTables_fill :
    (fill settings store name).rejectedTables = store.rejectedTables := by
  obtain ⟨tables, same⟩ := fill_frame settings store name
  rw [same]

theorem accepts_fill : Accepts (fill settings store name) other ↔ Accepts store other := by
  rw [Accepts, rejectedTables_fill, Accepts]

/-- A table that is not filled stays as it is. -/
theorem tables_fill (unlike : ¬ (other = name ∧ Accepts store other)) :
    (fill settings store name).data.tables[other]? = store.data.tables[other]? := by
  rw [fill]
  split
  next accepts =>
    split
    · have different : compare name other ≠ .eq := by
        intro same
        rw [← Std.LawfulEqOrd.eq_of_compare same] at unlike
        exact unlike ⟨rfl, accepts⟩
      rw [Store.addTable, Std.ExtTreeMap.getElem?_insert, if_neg different]
    · rfl
  · rfl

/-- A complete table needs no filling. -/
theorem fill_of_complete (complete : Accepts store name → Complete settings name store) :
    fill settings store name = store := by
  rw [fill]
  split
  next accepts =>
    split
    next rows carried =>
      rw [filledRows_of_complete (complete accepts rows carried)]
      exact Store.addTable_of_column? carried
    · rfl
  · rfl

section Runs

variable {names : List String}

/-- After a list of tables was gone through, the tables of the list are filled. -/
theorem column?_foldl_fill :
    (names.foldl (fill settings) store).column? other column =
      if other ∈ names ∧ column = settings.column ∧ Accepts store other then
        (store.column? other column).map (filledRows settings)
      else store.column? other column := by
  induction names generalizing store with
  | nil => simp
  | cons name names ih =>
      rw [List.foldl_cons, ih, column?_fill]
      simp only [accepts_fill, List.mem_cons]
      by_cases filled : column = settings.column ∧ Accepts store other
      · by_cases now : other = name
        · subst now
          -- A column that is filled twice is the same as one that is filled once.
          by_cases again : other ∈ names
          · simp [filled, again, Function.comp_def]
          · simp [filled, again]
        · simp [now]
      · simp [filled]

theorem foldl_fill_frame (settings : BackfillSettings) (store : Store) (names : List String) :
    ∃ tables, names.foldl (fill settings) store =
      { store with data := { store.data with tables } } := by
  induction names generalizing store with
  | nil => exact ⟨_, rfl⟩
  | cons name names ih =>
      obtain ⟨tables, same⟩ := fill_frame settings store name
      rw [List.foldl_cons, same]
      obtain ⟨others, left⟩ := ih { store with data := { store.data with tables } }
      exact ⟨others, left⟩

theorem tables_foldl_fill (unlike : ¬ (other ∈ names ∧ Accepts store other)) :
    (names.foldl (fill settings) store).data.tables[other]? = store.data.tables[other]? := by
  induction names generalizing store with
  | nil => rfl
  | cons name names ih =>
      rw [List.mem_cons] at unlike
      rw [List.foldl_cons, ih, tables_fill]
      · exact fun both => unlike ⟨.inl both.1, both.2⟩
      · rw [accepts_fill]
        exact fun both => unlike ⟨.inr both.1, both.2⟩

/-- Tables that are complete are gone through without a change. -/
theorem foldl_fill_of_complete
    (complete : ∀ name ∈ names, Accepts store name → Complete settings name store) :
    names.foldl (fill settings) store = store := by
  induction names with
  | nil => rfl
  | cons name names ih =>
      rw [List.forall_mem_cons] at complete
      rw [List.foldl_cons, fill_of_complete complete.1]
      exact ih complete.2

end Runs

/-- Only the tables are changed. -/
theorem fillAll_frame (settings : BackfillSettings) (store : Store) :
    ∃ tables, fillAll settings store = { store with data := { store.data with tables } } :=
  foldl_fill_frame settings store _

theorem rejectedTables_fillAll : (fillAll settings store).rejectedTables = store.rejectedTables := by
  obtain ⟨tables, same⟩ := fillAll_frame settings store
  rw [same]

theorem accepts_fillAll : Accepts (fillAll settings store) name ↔ Accepts store name := by
  rw [Accepts, rejectedTables_fillAll, Accepts]

/-- The column is filled in every table that accepts it, and no other column changes. -/
theorem column?_fillAll :
    (fillAll settings store).column? other column =
      if column = settings.column ∧ Accepts store other then
        (store.column? other column).map (filledRows settings)
      else store.column? other column := by
  rw [fillAll, column?_foldl_fill]
  simp only [Store.mem_tablesWithColumn]
  by_cases filled : column = settings.column ∧ Accepts store other
  · obtain ⟨rfl, accepts⟩ := filled
    cases store.column? other settings.column with
    | none => simp
    | some rows => simp [accepts]
  · rw [if_neg fun all => filled all.2, if_neg filled]

theorem complete_fillAll (accepts : Accepts store name) :
    Complete settings name (fillAll settings store) := by
  intro rows filled
  rw [column?_fillAll, if_pos ⟨rfl, accepts⟩, Option.map_eq_some_iff] at filled
  obtain ⟨former, _, rfl⟩ := filled
  exact none_not_mem_filledRows former

theorem tablesWithColumn_fillAll :
    (fillAll settings store).tablesWithColumn settings.column =
      store.tablesWithColumn settings.column := by
  apply Store.tablesWithColumn_congr
  intro name
  rw [column?_fillAll]
  split
  · exact Option.isSome_map
  · rfl

/-- Filled once more, a store stays as it is. -/
theorem fillAll_fillAll : fillAll settings (fillAll settings store) = fillAll settings store :=
  foldl_fill_of_complete fun _ _ accepts => complete_fillAll (accepts_fillAll.mp accepts)

end Backfill

end TenantGuard
