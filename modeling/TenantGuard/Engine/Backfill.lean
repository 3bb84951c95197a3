import TenantGuard.Engine.Step
import TenantGuard.Sql.Identifier

/-!
# Backfill of tenant references

Where a table carries the tenant column, every row without a tenant gets the
default one.  Each table is filled under a savepoint of its own, so a table that
refuses is taken back and reported while the others go on.
-/

namespace TenantGuard

namespace Backfill

/-- The savepoint under which one table is filled. -/
def tableSavepoint : String := "tenantry_backfill_table"

/-- Fill one table. -/
def table (settings : BackfillSettings) (report : BackfillReport) (name : String) :
    Step BackfillReport := do
  if Sql.isPlain name then
    Step.call (.savepoint tableSavepoint)
    match ← (Step.call (.fillNullColumn name settings.column settings.defaultTenant)).attempt with
    | .ok rows =>
        Step.call (.releaseSavepoint tableSavepoint)
        return { report with tables := report.tables ++ [⟨name, rows⟩] }
    | .error error =>
        Step.call (.rollbackToSavepoint tableSavepoint)
        Action.warn .tableBackfillFailed
        return { report with failed := report.failed ++ [⟨name, detail error⟩] }
  else
    Action.warn .unusualTableSkipped
    return { report with skipped := report.skipped ++ [name] }
where
  /-- What a table's failure says. -/
  detail : EngineError → String
    | .store cause => cause.message
    | error => error.message

/-- Fill every table that carries the configured column. -/
def all (settings : BackfillSettings) : Step BackfillReport := do
  if Sql.isPlain settings.column then
    let tables ← Step.call (.tablesWithColumn settings.column)
    tables.foldlM (table settings) { column := settings.column, tenant := settings.defaultTenant }
  else
    throw (.invalidIdentifier settings.column)

end Backfill

end TenantGuard
