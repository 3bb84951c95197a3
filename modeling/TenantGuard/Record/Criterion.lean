import TenantGuard.Record.Value

/-!
# Search criteria

A search is a list of criteria that a record has to meet all of.  The criteria
compare exactly: an integer is not the reference of the same number.
-/

namespace TenantGuard

inductive Criterion where
  | eq (field : String) (value : FieldValue)
  /-- The relation holds no ids. -/
  | isEmpty (field : String)
  /-- The relation holds the id. -/
  | contains (field : String) (id : RecordId)
  deriving DecidableEq, Repr

namespace Criterion

def holds (values : Values) : Criterion → Bool
  | .eq field value => values.read field = value
  | .isEmpty field => (values.read field).isEmptyRelation
  | .contains field id =>
      match values.read field with
      | .refs ids => ids.contains id
      | _ => false

def text : Criterion → String
  | .eq field value => s!"('{field}', '=', {value.shown})"
  | .isEmpty field => s!"('{field}', '=', [])"
  | .contains field id => s!"('{field}', 'in', [{id}])"

def allHold (criteria : List Criterion) (values : Values) : Bool :=
  criteria.all (holds values)

end Criterion

end TenantGuard
