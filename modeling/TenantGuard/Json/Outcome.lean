import TenantGuard.Engine.Trail
import TenantGuard.Json.Basic

/-!
# Outcomes and reports as JSON

Field values are written plainly here: a reference and an integer look alike.
-/

namespace TenantGuard

def RecordKind.json : RecordKind → Json
  | .rule => .text "rule"
  | .accessGrant => .text "access_grant"

def FieldValue.json : FieldValue → Json
  | .null => .null
  | .bool value => .bool value
  | .int value => .int value
  | .text value => .text value
  | .ref id => .int id
  | .refs ids => .ints ids

def Criterion.json : Criterion → Json
  | .eq field value => .object [("eq", .list [.text field, value.json])]
  | .isEmpty field => .object [("is_empty", .text field)]
  | .contains field id => .object [("contains", .list [.text field, .int id])]

def Target.json (target : Target) : Json :=
  .object [("entity", .text target.entity), ("res_id", .int target.id)]

/-- The fields of a conflict. -/
def Conflict.jsonFields (conflict : Conflict) : List (String × Json) :=
  [("model", conflict.kind.json), ("count", .nat conflict.count),
    ("criteria", .list (conflict.criteria.map Criterion.json)),
    ("fields", .texts conflict.fields), ("ids", .ints conflict.ids)]

def Conflict.json (conflict : Conflict) : Json :=
  .object conflict.jsonFields

def IdentifierCollision.json (collision : IdentifierCollision) : Json :=
  .object
    [("module", .text collision.reference.module), ("name", .text collision.reference.name),
      ("existing", collision.existing.json), ("wanted", collision.wanted.json)]

def RecordOutcome.json : RecordOutcome → Json
  | .created id => .object [("outcome", .text "created"), ("id", .int id)]
  | .updated id removed =>
      .object [("outcome", .text "updated"), ("id", .int id), ("removed", .ints removed)]
  | .unchanged id removed =>
      .object [("outcome", .text "unchanged"), ("id", .int id), ("removed", .ints removed)]
  | .conflict found => .object (("outcome", .text "conflict") :: found.jsonFields)

def RecordReport.json (report : RecordReport) : Json :=
  .object
    [("kind", report.kind.json), ("name", .text report.name), ("outcome", report.outcome.json)]

def FailureKind.json : FailureKind → Json
  | .compile => .text "compile"
  | .store => .text "store"

def Failure.json (failure : Failure) : Json :=
  .object
    [("entity", .text failure.entity), ("kind", failure.kind.json),
      ("message", .text failure.detail)]

def EntityOutcome.json (outcome : EntityOutcome) : Json :=
  .object
    [("entity", .text outcome.entity), ("class", .text outcome.securityClass.name),
      ("records", .list (outcome.records.map RecordReport.json)),
      ("failures", .list (outcome.failures.map Failure.json)),
      ("collisions", .list (outcome.collisions.map IdentifierCollision.json))]

/-- The totals of a run, without what became of each entity type. -/
def Summary.jsonTotals (summary : Summary) : List (String × Json) :=
  [("entities", .nat summary.entities), ("created", .nat summary.created),
    ("updated", .nat summary.updated), ("unchanged", .nat summary.unchanged),
    ("duplicates_removed", .nat summary.duplicatesRemoved),
    ("conflicts", .list (summary.conflicts.map Conflict.json)),
    ("failures", .list (summary.failures.map Failure.json)),
    ("identifier_collisions", .list (summary.collisions.map IdentifierCollision.json)),
    ("manager_group", .ofOption .int summary.managerGroup)]

def Summary.json (summary : Summary) : Json :=
  .object <| summary.jsonTotals ++
    [("entity_outcomes", .list (summary.outcomes.map EntityOutcome.json))]

def BackfillReport.json (report : BackfillReport) : Json :=
  .object
    [("column", .text report.column), ("tenant", .int report.tenant),
      ("tables", .list (report.tables.map fun filled =>
        .object [("table", .text filled.table), ("rows", .nat filled.rows)])),
      ("skipped", .texts report.skipped),
      ("failed", .list (report.failed.map fun failure =>
        .object [("table", .text failure.table), ("message", .text failure.detail)]))]

def Report.jsonFields (report : Report) : List (String × Json) :=
  [("reconcile", .ofOption Summary.json report.reconcile),
    ("backfill", .ofOption BackfillReport.json report.backfill),
    ("errors", .texts report.errors)]

/-- What an event of the audit trail says beyond its subject. -/
def AuditEvent.detail : AuditEvent → Json
  | .created _ _ _ name => .object [("name", .text name)]
  | .updated _ _ _ fields => .object [("fields", .texts fields)]
  | .duplicatesRemoved _ _ _ kept => .object [("kept", .int kept)]
  | .conflictDetected _ _ _ fields => .object [("fields", .texts fields)]
  | .externalIdRegistered _ _ _ reference =>
      .object [("module", .text reference.module), ("name", .text reference.name)]
  | .externalIdCollision _ _ _ reference existing =>
      .object
        [("module", .text reference.module), ("name", .text reference.name),
          ("existing", existing.json)]
  | .backfilled _ column tenant rows =>
      .object [("column", .text column), ("tenant", .int tenant), ("rows", .nat rows)]

def AuditAction.json : AuditAction → Json
  | .created => .text "created"
  | .updated => .text "updated"
  | .duplicatesRemoved => .text "duplicates_removed"
  | .conflictDetected => .text "conflict_detected"
  | .externalIdRegistered => .text "external_id_registered"
  | .externalIdCollision => .text "external_id_collision"
  | .backfilled => .text "backfilled"

def AuditEvent.json (event : AuditEvent) : Json :=
  .object
    [("action", event.action.json), ("subject", .text event.subject),
      ("kind", .ofOption RecordKind.json event.kind?), ("ids", .ints event.ids),
      ("detail", event.detail)]

end TenantGuard
