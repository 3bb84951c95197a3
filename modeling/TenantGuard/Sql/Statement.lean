import TenantGuard.Record.Criterion
import TenantGuard.Sql.Table

/-!
# SQL statements

A statement is text with numbered places for the values that are bound to it, so
no value ever becomes part of the text.
-/

namespace TenantGuard.Sql

/-- A statement under construction: its text, and the values bound to its
places. -/
structure Statement where
  text : String
  bound : List FieldValue := []
  deriving DecidableEq, Repr

namespace Statement

def push (statement : Statement) (text : String) : Statement :=
  { statement with text := statement.text ++ text }

/-- Add the next numbered place, and bind a value to it. -/
def bind (statement : Statement) (value : FieldValue) : Statement where
  text := statement.text ++ s!"${statement.bound.length + 1}"
  bound := statement.bound ++ [value]

/-- Bind a value to a column, if it fits. -/
def bindTo (statement : Statement) (column : Column) (value : FieldValue) :
    Except Error Statement := do
  column.check value
  return statement.bind value

def criterion (table : Table) (statement : Statement) : Criterion → Except Error Statement
  | .eq field value => do
      let column ← table.column field
      let name ← quoted column.name
      let statement := statement.push s!" AND t.{name}"
      if value = .null then
        return statement.push " IS NULL"
      else
        (statement.push " = ").bindTo column value
  | .isEmpty field => do
      table.requireGroups field
      return statement.push
        s!" AND NOT EXISTS (SELECT 1 FROM {Table.groupRelation} r WHERE r.rule_group_id = t.id)"
  | .contains field id => do
      table.requireGroups field
      let statement := statement.push <|
        s!" AND EXISTS (SELECT 1 FROM {Table.groupRelation} r " ++
          "WHERE r.rule_group_id = t.id AND r.group_id = "
      return (statement.bind (.ref id)).push ")"

/-- The search for the ids of the active records that meet every criterion. -/
def search (table : Table) (criteria : List Criterion) : Except Error Statement := do
  let name ← quoted table.name
  let active ← quoted Table.activeColumn
  let start : Statement :=
    { text := s!"SELECT t.id::int8 AS id FROM {name} AS t WHERE t.{active}" }
  let filtered ← criteria.foldlM (criterion table) start
  return filtered.push " ORDER BY t.id"

end Statement

inductive SavepointOperation where
  | opens
  | releases
  | rollsBack
  deriving DecidableEq, Repr

def SavepointOperation.keywords : SavepointOperation → String
  | .opens => "SAVEPOINT"
  | .releases => "RELEASE SAVEPOINT"
  | .rollsBack => "ROLLBACK TO SAVEPOINT"

def savepointStatement (operation : SavepointOperation) (name : String) :
    Except Error String := do
  let name ← quoted name
  return s!"{operation.keywords} {name}"

end TenantGuard.Sql
