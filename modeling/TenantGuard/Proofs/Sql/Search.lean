import Mathlib.Data.List.Nodup
import TenantGuard.Proofs.Except
import TenantGuard.Proofs.Sql.Conditions
import TenantGuard.Sql.Statement

/-!
# Searches without data

A table admits a criterion that asks one of its columns for null or for a value that fits, or
that asks for groups if the table has any.  A search can be written exactly if its table admits
all of its criteria, and then its text tells their shapes and nothing else: what a record is
looked up by never becomes part of the text, whatever is written in it.
-/

namespace TenantGuard

namespace Sql

/-- The values other than null that a column of a type holds. -/
inductive ColumnType.Fits : ColumnType → FieldValue → Prop where
  | text (value : String) : Fits .text (.text value)
  | ref (id : RecordId) : Fits .id (.ref id)
  | int (value : Int) : Fits .id (.int value)
  | bool (value : Bool) : Fits .bool (.bool value)

theorem ColumnType.Fits.accepts {type : ColumnType} {value : FieldValue} (fits : type.Fits value) :
    type.accepts value := by
  cases fits with
  | text | ref | int | bool => rfl

/-- Null apart, exactly the values that fit are accepted. -/
theorem ColumnType.accepts_iff {type : ColumnType} {value : FieldValue} (notNull : value ≠ .null) :
    type.accepts value ↔ type.Fits value := by
  refine ⟨?_, Fits.accepts⟩
  intro accepted
  cases value with
  | null => exact absurd rfl notNull
  | text value =>
      cases type with
      | text => exact .text value
      | id | bool => cases accepted
  | ref id =>
      cases type with
      | id => exact .ref id
      | text | bool => cases accepted
  | int value =>
      cases type with
      | id => exact .int value
      | text | bool => cases accepted
  | bool value =>
      cases type with
      | bool => exact .bool value
      | text | id => cases accepted
  | refs ids => cases type <;> cases accepted

/-- The criteria that make sense for a table. -/
inductive Table.Admits (table : Table) : Criterion → Prop where
  | eq {column : Column} {value : FieldValue} (listed : column ∈ table.columns)
      (fits : value = .null ∨ column.type.Fits value) : Admits table (.eq column.name value)
  | isEmpty (related : table.hasGroups) : Admits table (.isEmpty Table.groupsField)
  | contains (related : table.hasGroups) (id : RecordId) :
      Admits table (.contains Table.groupsField id)

/-- A name as it stands in a statement. -/
def quotation (name : String) : String :=
  s!"\"{name}\""

/-- The text of a search up to its first criterion. -/
def Table.opening (table : Table) : String :=
  let active := quotation activeColumn
  s!"SELECT t.id::int8 AS id FROM {quotation table.name} AS t WHERE t.{active}"

/-- The text of a search with criteria of these shapes. -/
def Table.searchText (table : Table) (shapes : List Criterion.Shape) : String :=
  table.opening ++ Criterion.Shape.conditions 1 shapes ++ " ORDER BY t.id"

/-- A name that can be quoted. -/
def Quotable (name : String) : Prop :=
  name ≠ "" ∧ name.toList.all isPlainLetter

instance (name : String) : Decidable (Quotable name) :=
  inferInstanceAs (Decidable (_ ∧ _))

theorem Quotable.quote {name : String} (quotable : Quotable name) :
    quote name = .ok (quotation name) := by
  rw [Sql.quote, if_neg quotable.1, if_pos quotable.2, quotation]

theorem Quotable.quoted {name : String} (quotable : Quotable name) :
    quoted name = .ok (quotation name) := by
  rw [Sql.quoted, quotable.quote]
  rfl

theorem Quotable.placeless {name : String} (quotable : Quotable name) : '$' ∉ name.toList := by
  intro listed
  have plain := List.all_eq_true.mp quotable.2 _ listed
  revert plain
  decide

/-- What searching relies on: every name can be quoted, and no two columns have the same one. -/
structure Table.Regular (table : Table) : Prop where
  name : Quotable table.name
  columns : ∀ column ∈ table.columns, Quotable column.name
  distinct : (table.columns.map (·.name)).Nodup

theorem Table.regular_ofKind (kind : RecordKind) : (ofKind kind).Regular := by
  cases kind with
  | rule => exact ⟨by decide, by decide, by decide⟩
  | accessGrant => exact ⟨by decide, by decide, by decide⟩

variable {table : Table} {criterion : Criterion} {field : String} {column : Column}

namespace Table

/-- Looking a column up by its name finds that column and no other. -/
theorem Regular.column_eq_ok_iff (regular : table.Regular) :
    table.column field = .ok column ↔ column ∈ table.columns ∧ column.name = field := by
  rw [Table.column]
  split
  next found looked =>
    have listed := List.mem_of_find?_eq_some looked
    have named : found.name = field := by simpa using List.find?_some looked
    constructor
    · rintro ⟨⟩
      exact ⟨listed, named⟩
    · rintro ⟨listedToo, namedToo⟩
      rw [List.inj_on_of_nodup_map regular.distinct listedToo listed (namedToo.trans named.symm)]
  next missing =>
    constructor
    · rintro ⟨⟩
    · rintro ⟨listed, named⟩
      exact absurd (decide_eq_true named) (List.find?_eq_none.mp missing column listed)

theorem requireGroups_eq_ok_iff :
    table.requireGroups field = .ok () ↔ table.hasGroups ∧ field = groupsField := by
  rw [requireGroups]
  split
  next related => exact iff_of_true rfl related
  next unrelated => exact iff_of_false (fun passed => by cases passed) unrelated

end Table

namespace Statement

variable {statement next : Statement}

/-- The statement with the condition of one more criterion. -/
def filtered (statement : Statement) (criterion : Criterion) : Statement where
  text := statement.text ++ criterion.shape.condition (statement.bound.length + 1)
  bound := statement.bound ++ criterion.bound?.toList

theorem bindTo_eq_ok_iff {value : FieldValue} :
    statement.bindTo column value = .ok next ↔
      column.type.accepts value ∧ next = statement.bind value := by
  rw [bindTo, Except.bind_eq_ok_of_unit, Column.check]
  split
  next fits =>
    constructor
    · rintro ⟨_, ⟨⟩⟩
      exact ⟨fits, rfl⟩
    · rintro ⟨_, rfl⟩
      exact ⟨rfl, rfl⟩
  next unfit =>
    constructor
    · rintro ⟨⟨⟩, _⟩
    · rintro ⟨fits, _⟩
      exact absurd fits unfit

/-- A statement is filtered by appending the condition and the value for its place. -/
theorem eq_filtered
    (text : next.text = statement.text ++ criterion.shape.condition (statement.bound.length + 1))
    (bound : next.bound = statement.bound ++ criterion.bound?.toList) :
    next = statement.filtered criterion := by
  rw [filtered, ← text, ← bound]

theorem push_null (statement : Statement) (field : String) :
    (statement.push s!" AND t.{quotation field}").push " IS NULL" =
      statement.filtered (.eq field .null) := by
  apply eq_filtered
  · rw [← String.toList_inj]
    simp [push, Criterion.shape, Criterion.Shape.condition, Criterion.Shape.binds,
      Criterion.Shape.opening, quotation, toString]
  · exact (List.append_nil _).symm

theorem push_bind (statement : Statement) (field : String) {value : FieldValue}
    (notNull : value ≠ .null) :
    ((statement.push s!" AND t.{quotation field}").push " = ").bind value =
      statement.filtered (.eq field value) := by
  have shape : (Criterion.eq field value).shape = .eq field false := by
    rw [Criterion.shape, decide_eq_false notNull]
  have bound : (Criterion.eq field value).bound? = some value := if_neg notNull
  apply eq_filtered
  · rw [shape, ← String.toList_inj]
    simp [push, bind, Criterion.Shape.condition, Criterion.Shape.binds, Criterion.Shape.opening,
      Criterion.Shape.closing, quotation, toString]
  · rw [bound]
    rfl

theorem push_bind_push (statement : Statement) (field : String) (id : RecordId) :
    ((statement.push (s!" AND EXISTS (SELECT 1 FROM {Table.groupRelation} r " ++
      "WHERE r.rule_group_id = t.id AND r.group_id = ")).bind (.ref id)).push ")" =
      statement.filtered (.contains field id) := by
  apply eq_filtered
  · rw [← String.toList_inj]
    simp [push, bind, Criterion.shape, Criterion.Shape.condition, Criterion.Shape.binds,
      Criterion.Shape.opening, Criterion.Shape.closing, Table.groupRelation, toString]
  · rfl

theorem push_isEmpty (statement : Statement) (field : String) :
    statement.push
        s!" AND NOT EXISTS (SELECT 1 FROM {Table.groupRelation} r WHERE r.rule_group_id = t.id)" =
      statement.filtered (.isEmpty field) := by
  apply eq_filtered
  · rw [← String.toList_inj]
    simp [push, Criterion.shape, Criterion.Shape.condition, Criterion.Shape.binds,
      Criterion.Shape.opening, Table.groupRelation, toString]
  · exact (List.append_nil _).symm

/-- A condition on a column asks for a value that fits, or for null. -/
theorem criterion_of_column (found : table.column field = .ok column)
    (quotable : Quotable column.name) {value : FieldValue} :
    Statement.criterion table statement (.eq field value) = .ok next ↔
      (value = .null ∨ column.type.Fits value) ∧
        next = statement.filtered (.eq column.name value) := by
  rw [Statement.criterion, found]
  change (quoted column.name >>= _) = _ ↔ _
  rw [quotable.quoted]
  by_cases null : value = .null
  · subst null
    rw [← push_null]
    constructor
    · rintro ⟨⟩
      exact ⟨.inl rfl, rfl⟩
    · rintro ⟨_, rfl⟩
      rfl
  · rw [← push_bind statement column.name null]
    change (if value = .null then _ else _) = _ ↔ _
    rw [if_neg null, bindTo_eq_ok_iff, ColumnType.accepts_iff null]
    simp [null]

/-- One criterion is added exactly if the table admits it. -/
theorem criterion_eq_ok_iff (regular : table.Regular) :
    Statement.criterion table statement criterion = .ok next ↔
      table.Admits criterion ∧ next = statement.filtered criterion := by
  cases criterion with
  | eq field value =>
      constructor
      · intro written
        obtain ⟨column, found, _⟩ := Except.bind_eq_ok.mp written
        obtain ⟨listed, rfl⟩ := regular.column_eq_ok_iff.mp found
        obtain ⟨fits, rfl⟩ := (criterion_of_column found (regular.columns column listed)).mp written
        exact ⟨.eq listed fits, rfl⟩
      · rintro ⟨⟨listed, fits⟩, rfl⟩
        have found := regular.column_eq_ok_iff.mpr ⟨listed, rfl⟩
        exact (criterion_of_column found (regular.columns _ listed)).mpr ⟨fits, rfl⟩
  | isEmpty field =>
      rw [Statement.criterion, Except.bind_eq_ok_of_unit, Table.requireGroups_eq_ok_iff,
        ← push_isEmpty statement field]
      constructor
      · rintro ⟨⟨related, rfl⟩, ⟨⟩⟩
        exact ⟨.isEmpty related, rfl⟩
      · rintro ⟨admitted, rfl⟩
        cases admitted with
        | isEmpty related => exact ⟨⟨related, rfl⟩, rfl⟩
  | contains field id =>
      rw [Statement.criterion, Except.bind_eq_ok_of_unit, Table.requireGroups_eq_ok_iff,
        ← push_bind_push statement field]
      constructor
      · rintro ⟨⟨related, rfl⟩, ⟨⟩⟩
        exact ⟨.contains related id, rfl⟩
      · rintro ⟨admitted, rfl⟩
        cases admitted with
        | contains related => exact ⟨⟨related, rfl⟩, rfl⟩

/-- Criteria are added one after the other exactly if the table admits all of them. -/
theorem foldlM_criterion_eq_ok_iff (regular : table.Regular) {criteria : List Criterion} :
    criteria.foldlM (Statement.criterion table) statement = .ok next ↔
      (∀ criterion ∈ criteria, table.Admits criterion) ∧
        next = criteria.foldl filtered statement := by
  induction criteria generalizing statement with
  | nil =>
      rw [List.foldlM_nil, List.foldl_nil]
      constructor
      · rintro ⟨⟩
        exact ⟨by simp, rfl⟩
      · rintro ⟨_, rfl⟩
        rfl
  | cons criterion criteria ih =>
      rw [List.foldlM_cons, List.foldl_cons, List.forall_mem_cons, Except.bind_eq_ok]
      constructor
      · rintro ⟨between, first, others⟩
        obtain ⟨admitted, rfl⟩ := (criterion_eq_ok_iff regular).mp first
        obtain ⟨othersAdmitted, rfl⟩ := ih.mp others
        exact ⟨⟨admitted, othersAdmitted⟩, rfl⟩
      · rintro ⟨⟨admitted, othersAdmitted⟩, rfl⟩
        exact ⟨_, (criterion_eq_ok_iff regular).mpr ⟨admitted, rfl⟩,
          ih.mpr ⟨othersAdmitted, rfl⟩⟩

/-- What criteria add depends on their shapes, but for the values that are bound. -/
theorem foldl_filtered (statement : Statement) (criteria : List Criterion) :
    criteria.foldl filtered statement =
      ⟨statement.text ++
          Criterion.Shape.conditions (statement.bound.length + 1) (criteria.map (·.shape)),
        statement.bound ++ criteria.filterMap (·.bound?)⟩ := by
  induction criteria generalizing statement with
  | nil => simp [Criterion.Shape.conditions]
  | cons criterion criteria ih =>
      rw [List.foldl_cons, ih, List.map_cons, Criterion.Shape.conditions,
        ← criterion.isSome_bound?, filtered, List.filterMap_cons]
      cases criterion.bound? with
      | none => simp [String.append_assoc]
      | some value => simp [String.append_assoc]

/-- A search can be written exactly if the table admits every criterion.  Its text depends on
the shapes of the criteria and on nothing else. -/
theorem search_eq_ok_iff (regular : table.Regular) {criteria : List Criterion} :
    search table criteria = .ok statement ↔
      (∀ criterion ∈ criteria, table.Admits criterion) ∧
        statement = ⟨table.searchText (criteria.map (·.shape)), criteria.filterMap (·.bound?)⟩ := by
  have active : Quotable Table.activeColumn := by decide
  rw [search, regular.name.quoted, active.quoted]
  change (criteria.foldlM (Statement.criterion table) ⟨_, []⟩ >>= fun filtered : Statement =>
    Except.ok (filtered.push " ORDER BY t.id")) = _ ↔ _
  rw [Except.bind_eq_ok]
  constructor
  · rintro ⟨between, others, ⟨⟩⟩
    obtain ⟨admitted, rfl⟩ := (foldlM_criterion_eq_ok_iff regular).mp others
    refine ⟨admitted, ?_⟩
    rw [foldl_filtered]
    rfl
  · rintro ⟨admitted, rfl⟩
    refine ⟨_, (foldlM_criterion_eq_ok_iff regular).mpr ⟨admitted, rfl⟩, ?_⟩
    rw [foldl_filtered]
    rfl

end Statement

open Criterion (Shape)

theorem Table.Regular.placeless (regular : table.Regular) : '$' ∉ table.opening.toList := by
  delta opening
  simp [quotation, activeColumn, toString, regular.name.placeless]

/-- Only names of columns are written into conditions, and these have no dollar sign. -/
theorem Table.Admits.placeless (admits : table.Admits criterion) (regular : table.Regular) :
    '$' ∉ criterion.shape.opening.toList := by
  cases admits with
  | @eq column value listed fits =>
      have placeless := (regular.columns column listed).placeless
      rw [Criterion.shape]
      cases decide (value = .null) <;> simp [Shape.opening, toString, placeless]
  | isEmpty related | contains related id => simp [Criterion.shape, Shape.opening]

theorem placesIn_searchText (regular : table.Regular) {criteria : List Criterion}
    (admits : ∀ criterion ∈ criteria, table.Admits criterion) :
    placesIn (table.searchText (criteria.map (·.shape))).toList =
      (List.range' 1 (criteria.countP (·.shape.binds))).map
        fun number => (toString number).toList := by
  have placeless : ∀ shape ∈ criteria.map (·.shape), '$' ∉ shape.opening.toList := by
    rw [List.forall_mem_map]
    intro criterion listed
    exact (admits criterion listed).placeless regular
  have ends : EndsNumber " ORDER BY t.id".toList := by
    rintro letter ⟨⟩
    decide
  rw [Table.searchText, String.toList_append, String.toList_append, placesIn_append _ ends,
    placesIn_append _ (Shape.endsNumber_conditions _ _), placesIn_eq_nil regular.placeless,
    Shape.placesIn_conditions placeless, List.countP_map, placesIn_eq_nil (by decide)]
  simp [Function.comp_def]

/-- Searches never contain data.  For both kinds of records a search can be written exactly if
the table admits every criterion.  Its text is put together from the shapes of the criteria, the
values of those that have one are bound in their order, and the places in the text are numbered
from one on, one for each of these values. -/
theorem search_without_data (kind : RecordKind) (criteria : List Criterion) :
    ((∃ statement, Statement.search (.ofKind kind) criteria = .ok statement) ↔
      ∀ criterion ∈ criteria, (Table.ofKind kind).Admits criterion) ∧
    ∀ statement, Statement.search (.ofKind kind) criteria = .ok statement →
      statement.text = (Table.ofKind kind).searchText (criteria.map (·.shape)) ∧
      statement.bound = criteria.filterMap (·.bound?) ∧
      placesIn statement.text.toList =
        (List.range' 1 (criteria.countP (·.shape.binds))).map
          fun number => (toString number).toList := by
  have regular := Table.regular_ofKind kind
  constructor
  · constructor
    · rintro ⟨statement, written⟩
      exact ((Statement.search_eq_ok_iff regular).mp written).1
    · intro admits
      exact ⟨_, (Statement.search_eq_ok_iff regular).mpr ⟨admits, rfl⟩⟩
  · intro statement written
    obtain ⟨admits, rfl⟩ := (Statement.search_eq_ok_iff regular).mp written
    exact ⟨rfl, rfl, placesIn_searchText regular admits⟩

/-- Text that looks like SQL, or like a place, takes a place itself. -/
example :
    (Statement.search .rules [.eq "name" (.text "x' OR 1=1; $9 --"), .contains "groups" 4,
      .eq "model_id" .null]).map (·.text) =
      .ok ("SELECT t.id::int8 AS id FROM \"ir_rule\" AS t WHERE t.\"active\" " ++
        "AND t.\"name\" = $1 AND EXISTS (SELECT 1 FROM rule_group_rel r " ++
        "WHERE r.rule_group_id = t.id AND r.group_id = $2) AND t.\"model_id\" IS NULL " ++
        "ORDER BY t.id") := by
  decide +kernel

end Sql

end TenantGuard
