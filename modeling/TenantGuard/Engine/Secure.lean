import TenantGuard.Engine.Backfill
import TenantGuard.Engine.Reconcile

/-!
# Securing a store

A run reconciles every entity type and then fills missing tenant references,
each under a savepoint.  It never fails: whatever goes wrong ends up in its
report.
-/

namespace TenantGuard

namespace Secure

def reconcileSavepoint : String := "tenantry_reconcile"

def backfillSavepoint : String := "tenantry_backfill"

/-- Do some work under a savepoint.  If the work fails, it is taken back. -/
def within {α : Type} (savepoint : String) (work : Step α) : Step α := do
  Step.call (.savepoint savepoint)
  match ← work.attempt with
  | .ok value =>
      Step.call (.releaseSavepoint savepoint)
      return value
  | .error error =>
      match ← (Step.call (.rollbackToSavepoint savepoint)).attempt with
      | .ok () => throw error
      | .error _ =>
          Action.warn .rollbackFailed
          throw error

/-- Reconcile, and say what is missing. -/
def reconcile (policy : Policy) : Action (Option Summary × List String) := do
  match ← Action.attempt (within reconcileSavepoint (Reconcile.all policy)) with
  | .ok summary =>
      if summary.managerGroup.isNone then
        return (some summary,
          [s!"manager group {policy.config.managerGroup} not found; manager records skipped"])
      else
        return (some summary, [])
  | .error error =>
      Action.warn .reconciliationAborted
      return (none, [s!"reconciliation aborted: {error.message}"])

/-- Record every table in which rows were filled. -/
def recordTables (report : BackfillReport) : Action Unit :=
  (report.tables.filter fun filled => 0 < filled.rows).forM fun filled =>
    Action.record (.backfilled filled.table report.column report.tenant filled.rows)

/-- Fill missing tenant references, unless that is switched off, and say what
failed. -/
def backfill (policy : Policy) : Action (Option BackfillReport × List String) := do
  if policy.config.backfill.enabled then
    match ← Action.attempt (within backfillSavepoint (Backfill.all policy.config.backfill)) with
    | .ok report =>
        recordTables report
        return (some report, report.failed.map fun failure =>
          s!"backfill of {failure.table} failed: {failure.detail}")
    | .error error =>
        Action.warn .backfillFailed
        return (none, [s!"backfill failed: {error.message}"])
  else
    return (none, [])

end Secure

/-- Secure a store. -/
def secure (policy : Policy) : Action Report := do
  let (summary, missing) ← Secure.reconcile policy
  let (filled, failed) ← Secure.backfill policy
  let report : Report := { reconcile := summary, backfill := filled, errors := missing ++ failed }
  if !report.isClean then
    Action.warn .securedWithProblems
  return report

end TenantGuard
