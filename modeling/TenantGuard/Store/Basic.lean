import TenantGuard.Record.Criterion
import TenantGuard.Store.Reference

/-!
# The record store

The store holds the generated records, external identifiers and, for the
backfill, the tenant columns of its tables.  These are its data, which a
savepoint remembers.  Around the data stand the catalog of entity types, the
groups, the last id that was handed out and the counters of changes, which no
savepoint restores; ids are therefore never handed out twice.
-/

namespace TenantGuard

/-- The records of one kind, in ascending order of their ids. -/
abbrev RecordTable := Std.ExtTreeMap RecordId Values

/-- The values of one column, row by row. -/
abbrev Column := List (Option Int)

/-- What a savepoint remembers. -/
structure StoreData where
  rules : RecordTable := ∅
  accessGrants : RecordTable := ∅
  externalIds : Std.ExtTreeMap Reference Target := ∅
  tables : Std.ExtTreeMap String (Std.ExtTreeMap String Column) := ∅

namespace StoreData

def records (data : StoreData) : RecordKind → RecordTable
  | .rule => data.rules
  | .accessGrant => data.accessGrants

def withRecords (data : StoreData) (kind : RecordKind) (table : RecordTable) : StoreData :=
  match kind with
  | .rule => { data with rules := table }
  | .accessGrant => { data with accessGrants := table }

@[simp] theorem records_withRecords_self (data : StoreData) (kind : RecordKind)
    (table : RecordTable) : (data.withRecords kind table).records kind = table := by
  cases kind <;> rfl

@[simp] theorem records_withRecords_of_ne (data : StoreData) {kind other : RecordKind}
    (table : RecordTable) (different : other ≠ kind) :
    (data.withRecords kind table).records other = data.records other := by
  cases kind <;> cases other <;> first | rfl | exact absurd rfl different

@[simp] theorem externalIds_withRecords (data : StoreData) (kind : RecordKind)
    (table : RecordTable) : (data.withRecords kind table).externalIds = data.externalIds := by
  cases kind <;> rfl

end StoreData

structure Savepoint where
  name : String
  data : StoreData

/-- How many calls changed records. -/
structure MutationCounts where
  creates : Nat := 0
  writes : Nat := 0
  unlinks : Nat := 0
  deriving DecidableEq, Repr

def MutationCounts.total (counts : MutationCounts) : Nat :=
  counts.creates + counts.writes + counts.unlinks

structure Store where
  lastId : RecordId := 0
  entityTypes : List EntityType := []
  groups : Std.ExtTreeMap Reference RecordId := ∅
  data : StoreData := {}
  /-- The open savepoints, latest first. -/
  savepoints : List Savepoint := []
  /-- The entity types whose records of a kind refuse to be written. -/
  rejectedWrites : List (RecordKind × RecordId) := []
  rejectedTables : List String := []
  counts : MutationCounts := {}

inductive StoreError where
  | savepointMissing (name : String)
  | recordMissing (kind : RecordKind) (id : RecordId)
  | writeRejected (kind : RecordKind) (model : RecordId)
  | identifierTaken (reference : Reference)
  | tableRejected (table : String)
  | columnMissing (table column : String)
  /-- The call did not get through; the causes are listed outermost first. -/
  | unreachable (causes : List String)
  deriving DecidableEq, Repr

def StoreError.message : StoreError → String
  | .savepointMissing name => s!"savepoint {name} does not exist"
  | .recordMissing kind id => s!"{kind.entity} record {id} does not exist"
  | .writeRejected kind model => s!"{kind.entity} write rejected for model {model}"
  | .identifierTaken reference => s!"external id {reference.text} already exists"
  | .tableRejected table => s!"update of {table} rejected"
  | .columnMissing table column => s!"column {table}.{column} does not exist"
  | .unreachable causes => ": ".intercalate causes

end TenantGuard
