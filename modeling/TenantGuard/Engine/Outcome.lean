import TenantGuard.Record.Desired
import TenantGuard.Store.Basic

/-!
# Outcomes

What became of a desired record, of an entity type and of a whole run.  A
conflict is several records under one logical key that do not agree: nothing is
changed then, and the records are left to a person.
-/

namespace TenantGuard

structure Conflict where
  kind : RecordKind
  count : Nat
  criteria : List Criterion
  fields : List String
  ids : List RecordId
  deriving DecidableEq, Repr

def Conflict.message (conflict : Conflict) : String :=
  let criteria := ", ".intercalate (conflict.criteria.map Criterion.text)
  let fields := Text.quotedList conflict.fields
  let ids := Text.intList conflict.ids
  s!"{conflict.count} conflicting {conflict.kind.entity} records match [{criteria}]; " ++
    s!"differing fields {fields}; ids {ids}"

/-- An external identifier that already stands for another record. -/
structure IdentifierCollision where
  reference : Reference
  existing : Target
  wanted : Target
  deriving DecidableEq, Repr

def IdentifierCollision.message (collision : IdentifierCollision) : String :=
  s!"external id {collision.reference.text} already exists with model " ++
    s!"{collision.existing.entity}, res_id {collision.existing.id}"

inductive RecordOutcome where
  | created (id : RecordId)
  /-- Some fields were written.  The removed records were copies of the one that
  stayed. -/
  | updated (id : RecordId) (removed : List RecordId)
  | unchanged (id : RecordId) (removed : List RecordId)
  | conflict (conflict : Conflict)
  deriving DecidableEq, Repr

namespace RecordOutcome

/-- The record that now stands for the desired one, if there is one. -/
def id? : RecordOutcome → Option RecordId
  | .created id | .updated id _ | .unchanged id _ => some id
  | .conflict _ => none

def removed : RecordOutcome → List RecordId
  | .updated _ removed | .unchanged _ removed => removed
  | .created _ | .conflict _ => []

end RecordOutcome

structure RecordReport where
  kind : RecordKind
  name : String
  outcome : RecordOutcome
  deriving DecidableEq, Repr

inductive FailureKind where
  /-- A predicate has no filter, so there are no global rules. -/
  | compile
  /-- A call to the store failed, and the entity type was given up. -/
  | store
  deriving DecidableEq, Repr

def FailureKind.label : FailureKind → String
  | .compile => "Compile"
  | .store => "Store"

/-- An entity type that was not brought to an end. -/
structure Failure where
  entity : String
  kind : FailureKind
  detail : String
  deriving DecidableEq, Repr

def Failure.message (failure : Failure) : String :=
  s!"{failure.entity} ({failure.kind.label}): {failure.detail}"

structure EntityOutcome where
  entity : String
  securityClass : SecurityClass
  records : List RecordReport := []
  failures : List Failure := []
  collisions : List IdentifierCollision := []
  deriving DecidableEq, Repr

structure Summary where
  entities : Nat := 0
  created : Nat := 0
  updated : Nat := 0
  unchanged : Nat := 0
  duplicatesRemoved : Nat := 0
  conflicts : List Conflict := []
  failures : List Failure := []
  collisions : List IdentifierCollision := []
  managerGroup : Option RecordId := none
  outcomes : List EntityOutcome := []
  deriving DecidableEq, Repr

namespace Summary

def count (summary : Summary) (report : RecordReport) : Summary :=
  let counted := { summary with
    duplicatesRemoved := summary.duplicatesRemoved + report.outcome.removed.length }
  match report.outcome with
  | .created _ => { counted with created := counted.created + 1 }
  | .updated _ _ => { counted with updated := counted.updated + 1 }
  | .unchanged _ _ => { counted with unchanged := counted.unchanged + 1 }
  | .conflict conflict => { counted with conflicts := counted.conflicts ++ [conflict] }

def absorb (summary : Summary) (outcome : EntityOutcome) : Summary :=
  let counted := outcome.records.foldl count summary
  { counted with
    entities := counted.entities + 1
    failures := counted.failures ++ outcome.failures
    collisions := counted.collisions ++ outcome.collisions
    outcomes := counted.outcomes ++ [outcome] }

/-- How many records were created, written or removed. -/
def mutations (summary : Summary) : Nat :=
  summary.created + summary.updated + summary.duplicatesRemoved

/-- Whether something is left to a person. -/
def hasProblems (summary : Summary) : Bool :=
  !summary.conflicts.isEmpty || !summary.failures.isEmpty

end Summary

structure TableBackfill where
  table : String
  rows : Nat
  deriving DecidableEq, Repr

structure TableFailure where
  table : String
  detail : String
  deriving DecidableEq, Repr

structure BackfillReport where
  column : String
  tenant : Int
  tables : List TableBackfill := []
  /-- The tables whose name is no plain identifier. -/
  skipped : List String := []
  failed : List TableFailure := []
  deriving DecidableEq, Repr

def BackfillReport.rows (report : BackfillReport) : Nat :=
  report.tables.foldr (fun filled total => filled.rows + total) 0

structure Report where
  /-- Absent when the pass over the entity types was aborted. -/
  reconcile : Option Summary
  /-- Absent when the backfill is switched off or was aborted. -/
  backfill : Option BackfillReport
  errors : List String
  deriving DecidableEq, Repr

/-- Whether nothing went wrong and nothing is left to a person. -/
def Report.isClean (report : Report) : Bool :=
  report.errors.isEmpty && report.reconcile.any fun summary => !summary.hasProblems

end TenantGuard
