import Std.Data.ExtTreeMap
import Std.Data.ExtTreeSet
import TenantGuard.Tenancy.EntityType
import TenantGuard.Text.Quoted

/-!
# Records

The store holds two kinds of generated records: row rules and access grants.  A
record is a finite map from field names to values.  A relation to many records
is a set of ids; it is compared and stored in ascending order without
repetitions.
-/

namespace TenantGuard

inductive RecordKind where
  | rule
  | accessGrant
  deriving DecidableEq, Repr

/-- The entity type under which records of a kind are stored. -/
def RecordKind.entity : RecordKind → String
  | .rule => EntityType.ruleName
  | .accessGrant => EntityType.accessGrantName

theorem RecordKind.entity_injective {first second : RecordKind}
    (equal : first.entity = second.entity) : first = second := by
  cases first <;> cases second <;>
    simp_all [RecordKind.entity, EntityType.ruleName, EntityType.accessGrantName]

/-- The ids of a list in ascending order, each once. -/
def ascending (ids : List RecordId) : List RecordId :=
  (Std.ExtTreeSet.ofList ids).toList

@[simp] theorem mem_ascending {id : RecordId} {ids : List RecordId} :
    id ∈ ascending ids ↔ id ∈ ids := by
  simp [ascending]

theorem ascending_eq_of_mem_iff {first second : List RecordId}
    (same : ∀ id, id ∈ first ↔ id ∈ second) : ascending first = ascending second := by
  have equal : Std.ExtTreeSet.ofList first = Std.ExtTreeSet.ofList second := by
    ext id
    simpa using same id
  rw [ascending, ascending, equal]

@[simp] theorem ascending_ascending (ids : List RecordId) :
    ascending (ascending ids) = ascending ids :=
  ascending_eq_of_mem_iff fun _ => mem_ascending

inductive FieldValue where
  | null
  | bool (value : Bool)
  | int (value : Int)
  | text (value : String)
  | ref (id : RecordId)
  | refs (ids : List RecordId)
  deriving DecidableEq, Repr

namespace FieldValue

/-- References to the ids of a list, as they are stored. -/
def relation (ids : List RecordId) : FieldValue :=
  .refs (ascending ids)

def normalized : FieldValue → FieldValue
  | .refs ids => relation ids
  | value => value

/-- Whether the value, read as a relation, refers to nothing. -/
def isEmptyRelation : FieldValue → Bool
  | .null => true
  | .refs ids => ids.isEmpty
  | _ => false

def shown : FieldValue → String
  | .null => "null"
  | .bool value => toString value
  | .int value => toString value
  | .text value => s!"'{value}'"
  | .ref id => toString id
  | .refs ids => Text.intList ids

end FieldValue

abbrev Values := Std.ExtTreeMap String FieldValue

namespace Values

/-- The value of a field.  A field that a record does not have is null. -/
def read (values : Values) (field : String) : FieldValue :=
  values[field]?.getD .null

def normalized (values : Values) : Values :=
  values.map fun _ value => value.normalized

def overwrite (values changes : Values) : Values :=
  values.insertMany changes.toList

def restrict (values : Values) (fields : List String) : Values :=
  values.filter fun field _ => fields.contains field

/-- Records marked as not active are archived, and no search finds them. -/
def active (values : Values) : Bool :=
  values[("active" : String)]? ≠ some (.bool false)

end Values

end TenantGuard
