import TenantGuard.Record.Value
import TenantGuard.Sql.Identifier

/-!
# The host's tables

Each kind of record has a table in the host's database.  A column has a type,
and a value can be bound to it only if it fits.  The groups of a rule are kept
in a relation table beside it.
-/

namespace TenantGuard.Sql

inductive ColumnType where
  | text
  /-- A primary key, its own or another record's. -/
  | id
  | bool
  deriving DecidableEq, Repr

def ColumnType.name : ColumnType → String
  | .text => "Text"
  | .id => "Id"
  | .bool => "Bool"

structure Column where
  name : String
  type : ColumnType
  deriving DecidableEq, Repr

/-- How a column is read: ids are widened to eight bytes. -/
def Column.selection (column : Column) : String :=
  match column.type with
  | .id => s!"t.\"{column.name}\"::int8 AS \"{column.name}\""
  | _ => s!"t.\"{column.name}\" AS \"{column.name}\""

structure Table where
  name : String
  columns : List Column
  /-- Whether groups are related to the records. -/
  hasGroups : Bool
  deriving DecidableEq, Repr

namespace Table

def permissionColumns : List Column :=
  [⟨"perm_read", .bool⟩, ⟨"perm_write", .bool⟩, ⟨"perm_create", .bool⟩,
    ⟨"perm_unlink", .bool⟩]

def rules : Table where
  name := "ir_rule"
  columns :=
    [⟨"name", .text⟩, ⟨"model_id", .id⟩, ⟨"domain_force", .text⟩] ++ permissionColumns
  hasGroups := true

def accessGrants : Table where
  name := "ir_model_access"
  columns := [⟨"name", .text⟩, ⟨"model_id", .id⟩, ⟨"group_id", .id⟩] ++ permissionColumns
  hasGroups := false

/-- The table of a kind of record. -/
def ofKind : RecordKind → Table
  | .rule => rules
  | .accessGrant => accessGrants

/-- The field that holds the related groups. -/
def groupsField : String := "groups"

/-- The column that is false on archived records. -/
def activeColumn : String := "active"

/-- The table that relates rules to groups. -/
def groupRelation : String := "rule_group_rel"

end Table

/-- Why a statement cannot be written. -/
inductive Error where
  | identifier (cause : IdentifierError)
  | noColumn (table column : String)
  | noRelation (table field : String)
  | unfit (value : FieldValue) (column : Column)
  deriving DecidableEq, Repr

def Error.message : Error → String
  | .identifier cause => cause.message
  | .noColumn table column => s!"{table} has no column '{column}'"
  | .noRelation table field => s!"{table} has no relation '{field}'"
  | .unfit value column =>
      s!"value {value.shown} does not fit column '{column.name}' of type {column.type.name}"

/-- The column of a name. -/
def Table.column (table : Table) (name : String) : Except Error Column :=
  match table.columns.find? (·.name = name) with
  | some column => .ok column
  | none => .error (.noColumn table.name name)

/-- Check that a field is the relation to groups, and that there is one. -/
def Table.requireGroups (table : Table) (field : String) : Except Error Unit :=
  if table.hasGroups ∧ field = groupsField then .ok ()
  else .error (.noRelation table.name field)

/-- Whether a value can be bound to a column of a type. -/
def ColumnType.accepts : ColumnType → FieldValue → Bool
  | .text, .text _ | .text, .null => true
  | .id, .ref _ | .id, .int _ | .id, .null => true
  | .bool, .bool _ => true
  | _, _ => false

/-- Check that a value can be bound to a column. -/
def Column.check (column : Column) (value : FieldValue) : Except Error Unit :=
  if column.type.accepts value then .ok () else .error (.unfit value column)

/-- A name between double quotes, as part of a statement. -/
def quoted (name : String) : Except Error String :=
  (quote name).mapError .identifier

end TenantGuard.Sql
