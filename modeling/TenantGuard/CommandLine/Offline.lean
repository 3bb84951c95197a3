import TenantGuard.Catalog.Builtin
import TenantGuard.CommandLine.Response
import TenantGuard.Engine.Secure
import TenantGuard.Json.Outcome
import TenantGuard.Store.Setup

/-!
# Securing a store in memory

The store holds the manager group and the given entity types and nothing else.
The run is reported as it would be for any other store.
-/

namespace TenantGuard.CommandLine

/-- By what a run is known, and when it took place. -/
structure RunStamp where
  id : String
  started : String
  finished : String

namespace RunStamp

/-- Hexadecimal digits, as many as `count`, of the lowest places of a number. -/
def hexText (count number : Nat) : String :=
  String.ofList <| (List.range count).reverse.map fun place =>
    Nat.digitChar (number >>> (4 * place) % 16)

/-- The name of a run, made from 122 random binary digits.  Two fixed marks in it
say that it is random. -/
def randomId (random : Nat) : String :=
  let variant := 8 + random >>> 120 % 4
  "-".intercalate
    [hexText 8 random, hexText 4 (random >>> 32), "4" ++ hexText 3 (random >>> 48),
      hexText 1 variant ++ hexText 3 (random >>> 60), hexText 12 (random >>> 72)]

end RunStamp

namespace Offline

/-- A store with the configured manager group and some entity types. -/
def store (config : Config) (entities : List String) : Store :=
  let withGroup := match config.managerReference? with
    | some group => (({} : Store).addGroup group).2
    | none => {}
  entities.foldl (fun store entity => (store.addEntityType entity).2) withGroup

/-- The report of a run, and the session that it leaves. -/
def run (config : Config) (entities : List String) : Report × Session :=
  let session : Session := { host := { store := store config entities } }
  (secure { classifier := Classifier.builtin, config }).run session

def summaryLines (summary : Summary) : List String :=
  let totals := s!"  entity types: {summary.entities}  created: {summary.created}  " ++
    s!"updated: {summary.updated}  unchanged: {summary.unchanged}  " ++
    s!"duplicates removed: {summary.duplicatesRemoved}"
  totals ::
    (summary.conflicts.map fun conflict => s!"  CONFLICT {conflict.message}") ++
    (summary.failures.map fun failure => s!"  FAILED {failure.message}") ++
    (summary.collisions.map fun collision => s!"  WARN {collision.message}")

def backfillLines (report : BackfillReport) : List String :=
  let filled := report.tables.countP fun filled => 0 < filled.rows
  s!"  backfill: {report.rows} row(s) set to tenant {report.tenant} across {filled} table(s)" ::
    report.skipped.map fun table => s!"  WARN skipped table {table}"

/-- The lines of a report for people. -/
def lines (stamp : RunStamp) (report : Report) : List String :=
  s!"Run {stamp.id}" ::
    (report.reconcile.map summaryLines).getD [] ++
    (report.backfill.map backfillLines).getD [] ++
    report.errors.map fun error => s!"  ERROR {error}"

/-- The report as JSON. -/
def json (stamp : RunStamp) (report : Report) : Json :=
  .object <|
    [("run_id", .text stamp.id), ("started_at", .text stamp.started),
      ("finished_at", .text stamp.finished)] ++ report.jsonFields

/-- Secure a store in memory.  Problems make the command fail after the report
has been printed. -/
def respond (stamp : RunStamp) (config : Config) (entities : List String) (asJson : Bool) :
    Response :=
  let report := (run config entities).1
  let printed :=
    Response.ofLines (if asJson then [(json stamp report).pretty] else lines stamp report)
  if report.isClean then printed
  else printed.complain ⟨"secure finished with problems; see the report above", []⟩

end Offline

end TenantGuard.CommandLine
