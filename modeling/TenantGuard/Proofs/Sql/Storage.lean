import TenantGuard.Proofs.Record.Keys
import TenantGuard.Proofs.Sql.Search

/-!
# Desired records in the host's tables

Desired records are put together from names of fields and values of any kind, and the tables are
described without them.  They agree all the same: the table of a record's kind admits every
criterion of its key, and it has a column that takes the value of each field, or relates the
groups that the field holds.
-/

namespace TenantGuard

namespace Sql

/-- Where a table keeps the value of a field. -/
inductive Table.Stores (table : Table) : String → FieldValue → Prop where
  /-- Groups are kept in the relation beside the table. -/
  | groups (related : table.hasGroups) (ids : List RecordId) :
      Stores table groupsField (.refs ids)
  | column {field : String} {value : FieldValue} {column : Column}
      (found : table.column field = .ok column)
      (binds : ∀ statement : Statement, ∃ bound, statement.bindTo column value = .ok bound) :
      Stores table field value

variable {table : Table} {value : FieldValue}

/-- A value that fits a column is stored there. -/
theorem Table.Regular.stores (regular : table.Regular) (column : Column)
    (listed : column ∈ table.columns) (fits : column.type.Fits value) :
    table.Stores column.name value := by
  apply Stores.column (regular.column_eq_ok_iff.mpr ⟨listed, rfl⟩)
  intro statement
  exact ⟨_, Statement.bindTo_eq_ok_iff.mpr ⟨fits.accepts, rfl⟩⟩

/-- A value that fits a column can be looked up there. -/
theorem Table.admits_of_fits (column : Column) (listed : column ∈ table.columns)
    (fits : column.type.Fits value) : table.Admits (.eq column.name value) :=
  .eq listed (.inr fits)

end Sql

namespace DesiredRecord

open Sql

/-- A record that the table of its kind can be searched for, and that can be stored in it. -/
structure Storable (desired : DesiredRecord) : Prop where
  searched : ∃ statement, Statement.search (.ofKind desired.kind) desired.criteria = .ok statement
  stored : ∀ (field : String) (value : FieldValue),
    desired.values[field]? = some value → (Table.ofKind desired.kind).Stores field value

/-- A record written down field by field is storable if each field is. -/
theorem storable_of_fields {desired : DesiredRecord} {fields : List (String × FieldValue)}
    (written : desired.values = .ofList fields) (distinct : (fields.map (·.1)).Nodup)
    (stored : ∀ entry ∈ fields, (Table.ofKind desired.kind).Stores entry.1 entry.2)
    (admitted : ∀ criterion ∈ desired.criteria, (Table.ofKind desired.kind).Admits criterion) :
    desired.Storable where
  searched :=
    ⟨_, (Statement.search_eq_ok_iff (Table.regular_ofKind desired.kind)).mpr ⟨admitted, rfl⟩⟩
  stored := by
    intro field value present
    rw [written, Values.getElem?_ofList distinct] at present
    exact stored _ present

/-- Both tables have the columns that all desired records share. -/
theorem mem_columns_ofKind (kind : RecordKind) :
    ∀ column ∈ ⟨"name", .text⟩ :: ⟨"model_id", .id⟩ :: Table.permissionColumns,
      column ∈ (Table.ofKind kind).columns := by
  cases kind <;> decide

theorem stores_permissionFields (kind : RecordKind) (permissions : Permissions) :
    ∀ entry ∈ permissionFields permissions, (Table.ofKind kind).Stores entry.1 entry.2 := by
  have regular := Table.regular_ofKind kind
  have listed := mem_columns_ofKind kind
  simp only [Table.permissionColumns, List.forall_mem_cons] at listed
  obtain ⟨_, _, read, write, create, unlink, _⟩ := listed
  simp only [permissionFields, List.forall_mem_cons]
  exact ⟨regular.stores _ read (.bool _), regular.stores _ write (.bool _),
    regular.stores _ create (.bool _), regular.stores _ unlink (.bool _), by simp⟩

/-- The name of a record and its entity type are stored and looked up in both tables. -/
theorem stores_name_and_model (kind : RecordKind) (name : String) (model : RecordId) :
    ((Table.ofKind kind).Stores "name" (.text name) ∧
      (Table.ofKind kind).Stores "model_id" (.ref model)) ∧
    (Table.ofKind kind).Admits (.eq "name" (.text name)) ∧
      (Table.ofKind kind).Admits (.eq "model_id" (.ref model)) := by
  have regular := Table.regular_ofKind kind
  have listed := mem_columns_ofKind kind
  rw [List.forall_mem_cons, List.forall_mem_cons] at listed
  exact ⟨⟨regular.stores _ listed.1 (.text name), regular.stores _ listed.2.1 (.ref model)⟩,
    Table.admits_of_fits _ listed.1 (.text name), Table.admits_of_fits _ listed.2.1 (.ref model)⟩

/-- Only rules have filters and groups. -/
theorem stores_domain (domain : String) :
    (Table.ofKind .rule).Stores "domain_force" (.text domain) :=
  (Table.regular_ofKind .rule).stores ⟨"domain_force", .text⟩ (by decide) (.text domain)

theorem globalRule_storable (entityType : EntityType) (rule : Rule) :
    (globalRule entityType rule).Storable := by
  obtain ⟨⟨name, model⟩, byName, byModel⟩ := stores_name_and_model .rule
    (globalRuleName entityType.name rule) entityType.id
  apply storable_of_fields rfl
  · change ["name", "model_id", "domain_force", "groups", "perm_read", "perm_write",
      "perm_create", "perm_unlink"].Nodup
    decide
  · rw [List.forall_mem_append]
    refine ⟨?_, stores_permissionFields .rule rule.permissions⟩
    simp only [List.forall_mem_cons]
    exact ⟨name, model, stores_domain rule.domain, .groups rfl _, by simp⟩
  · simp only [globalRule, List.forall_mem_cons]
    exact ⟨byName, byModel, .isEmpty rfl, by simp⟩

theorem managerGrant_storable (entityType : EntityType) (group : RecordId) :
    (managerGrant entityType group).Storable := by
  obtain ⟨⟨name, model⟩, byName, byModel⟩ := stores_name_and_model .accessGrant
    (managerName entityType) entityType.id
  have grouped : (⟨"group_id", .id⟩ : Sql.Column) ∈ (Table.ofKind .accessGrant).columns := by
    decide
  apply storable_of_fields rfl
  · change ["name", "model_id", "group_id", "perm_read", "perm_write", "perm_create",
      "perm_unlink"].Nodup
    decide
  · rw [List.forall_mem_append]
    refine ⟨?_, stores_permissionFields .accessGrant .full⟩
    simp only [List.forall_mem_cons]
    exact ⟨name, model, (Table.regular_ofKind .accessGrant).stores _ grouped (.ref group), by simp⟩
  · simp only [managerGrant, List.forall_mem_cons]
    exact ⟨byName, byModel, Table.admits_of_fits _ grouped (.ref group), by simp⟩

theorem managerRule_storable (entityType : EntityType) (group : RecordId) :
    (managerRule entityType group).Storable := by
  obtain ⟨⟨name, model⟩, byName, byModel⟩ := stores_name_and_model .rule
    (managerName entityType) entityType.id
  apply storable_of_fields rfl
  · change ["name", "model_id", "domain_force", "groups", "perm_read", "perm_write",
      "perm_create", "perm_unlink"].Nodup
    decide
  · rw [List.forall_mem_append]
    refine ⟨?_, stores_permissionFields .rule .full⟩
    simp only [List.forall_mem_cons]
    exact ⟨name, model, stores_domain permissiveDomain, .groups rfl _, by simp⟩
  · simp only [managerRule, List.forall_mem_cons]
    exact ⟨byName, byModel, .contains rfl group, by simp⟩

/-- The host's tables accept every desired record.  Every entity type has its rules, whatever its
name, its class and the settings.  The global rules and the records of a manager group can all be
searched for by their keys, and each of their fields is stored in a column that its value fits
or in the relation of groups.  No name of a column is refused. -/
theorem desired_records_storable (classifier : Classifier) (settings : TenancySettings)
    (entityType : EntityType) (group : Option RecordId) :
    ∃ rules, Rule.compile entityType.name (classifier.classify entityType.name) settings =
        .ok rules ∧
      (∀ desired ∈ globalRules entityType rules ++ managerRecords entityType group,
        desired.Storable) ∧
      ∀ kind, ∀ column ∈ (Table.ofKind kind).columns, ∃ text, quote column.name = .ok text := by
  obtain ⟨rules, compiled⟩ := Rule.compile_succeeds entityType.name
    (classifier.classify entityType.name) settings
  refine ⟨rules, compiled, ?_, ?_⟩
  · intro desired built
    rcases cases_of_mem_built built with ⟨rule, rfl⟩ | ⟨manager, rfl | rfl⟩
    · exact globalRule_storable entityType rule
    · exact managerGrant_storable entityType manager
    · exact managerRule_storable entityType manager
  · intro kind column listed
    exact ⟨_, ((Table.regular_ofKind kind).columns column listed).quote⟩

end DesiredRecord

end TenantGuard
