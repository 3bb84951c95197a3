import TenantGuard.Engine.Outcome

/-!
# The audit trail and the log

Every change to the store and every problem found leaves an event in the audit
trail.  The log holds what an operator should look at.
-/

namespace TenantGuard

/-- What happened, and to which records. -/
inductive AuditEvent where
  | created (entity : String) (kind : RecordKind) (id : RecordId) (name : String)
  | updated (entity : String) (kind : RecordKind) (id : RecordId) (fields : List String)
  | duplicatesRemoved (entity : String) (kind : RecordKind) (removed : List RecordId)
      (kept : RecordId)
  | conflictDetected (entity : String) (kind : RecordKind) (ids : List RecordId)
      (fields : List String)
  | externalIdRegistered (entity : String) (kind : RecordKind) (id : RecordId)
      (reference : Reference)
  | externalIdCollision (entity : String) (kind : RecordKind) (id : RecordId)
      (reference : Reference) (existing : Target)
  | backfilled (table column : String) (tenant : Int) (rows : Nat)
  deriving DecidableEq, Repr

/-- The name of an event. -/
inductive AuditAction where
  | created
  | updated
  | duplicatesRemoved
  | conflictDetected
  | externalIdRegistered
  | externalIdCollision
  | backfilled
  deriving DecidableEq, Repr

def AuditAction.label : AuditAction → String
  | .created => "CREATED"
  | .updated => "UPDATED"
  | .duplicatesRemoved => "DUPLICATES_REMOVED"
  | .conflictDetected => "CONFLICT"
  | .externalIdRegistered => "XMLID_REGISTERED"
  | .externalIdCollision => "XMLID_COLLISION"
  | .backfilled => "BACKFILLED"

namespace AuditEvent

def action : AuditEvent → AuditAction
  | .created .. => .created
  | .updated .. => .updated
  | .duplicatesRemoved .. => .duplicatesRemoved
  | .conflictDetected .. => .conflictDetected
  | .externalIdRegistered .. => .externalIdRegistered
  | .externalIdCollision .. => .externalIdCollision
  | .backfilled .. => .backfilled

/-- The entity type of the records, or the table. -/
def subject : AuditEvent → String
  | .created entity .. | .updated entity .. | .duplicatesRemoved entity ..
  | .conflictDetected entity .. | .externalIdRegistered entity ..
  | .externalIdCollision entity .. => entity
  | .backfilled table .. => table

def kind? : AuditEvent → Option RecordKind
  | .created _ kind .. | .updated _ kind .. | .duplicatesRemoved _ kind ..
  | .conflictDetected _ kind .. | .externalIdRegistered _ kind ..
  | .externalIdCollision _ kind .. => some kind
  | .backfilled .. => none

/-- The records that the event is about. -/
def ids : AuditEvent → List RecordId
  | .created _ _ id _ | .updated _ _ id _ | .externalIdRegistered _ _ id _
  | .externalIdCollision _ _ id _ _ => [id]
  | .duplicatesRemoved _ _ ids _ | .conflictDetected _ _ ids _ => ids
  | .backfilled .. => []

end AuditEvent

inductive LogLevel where
  | warning
  | error
  deriving DecidableEq, Repr

def LogLevel.label : LogLevel → String
  | .warning => "WARN"
  | .error => "ERROR"

/-- What an operator should look at. -/
inductive LogEvent where
  | malformedGroupReference
  | managerGroupMissing
  | ruleCompilationFailed
  | storeOperationFailed
  | entityRolledBack
  | conflictingDuplicates
  | identifierCollision
  | unusualTableSkipped
  | tableBackfillFailed
  | reconciliationAborted
  | backfillFailed
  | rollbackFailed
  | securedWithProblems
  deriving DecidableEq, Repr

namespace LogEvent

def level : LogEvent → LogLevel
  | .malformedGroupReference | .managerGroupMissing | .entityRolledBack
  | .identifierCollision | .unusualTableSkipped | .securedWithProblems => .warning
  | .ruleCompilationFailed | .storeOperationFailed | .conflictingDuplicates
  | .tableBackfillFailed | .reconciliationAborted | .backfillFailed
  | .rollbackFailed => .error

def message : LogEvent → String
  | .malformedGroupReference => "malformed manager group reference"
  | .managerGroupMissing => "manager group not found; skipping manager records"
  | .ruleCompilationFailed => "rule compilation failed"
  | .storeOperationFailed => "store operation failed"
  | .entityRolledBack => "entity changes rolled back"
  | .conflictingDuplicates => "conflicting duplicate records; manual remediation required"
  | .identifierCollision => "external id collision"
  | .unusualTableSkipped => "skipping table with unusual name"
  | .tableBackfillFailed => "backfill of table failed"
  | .reconciliationAborted => "reconciliation aborted"
  | .backfillFailed => "backfill failed"
  | .rollbackFailed => "rollback failed"
  | .securedWithProblems => "record store secured with problems"

/-- How urgent an event is beyond its level. -/
def severity? : LogEvent → Option String
  | .conflictingDuplicates => some "critical"
  | _ => none

end LogEvent

end TenantGuard
