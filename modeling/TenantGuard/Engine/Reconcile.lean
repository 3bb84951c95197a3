import TenantGuard.Engine.Registration

/-!
# Reconciliation

Every desired record is looked up by its logical key.  Where nothing is found it
is created; where one record is found, the fields that differ are written; where
several are found they are reduced to the one with the lowest id if they agree,
and reported as a conflict otherwise.

The records of an entity type are written under a savepoint.  If a call fails on
the way, everything written for the entity type is taken back and the others go
on.
-/

namespace TenantGuard

namespace Reconcile

/-- The fields in which some row is not like the first. -/
def differingFields (fields : List String) : List Values → List String
  | [] => []
  | first :: others =>
      fields.filter fun field => others.any fun row => row[field]? ≠ first[field]?

def changes (current wanted : Values) : Values :=
  wanted.filter fun field value => current.read field ≠ value

def update (entity : String) (desired : DesiredRecord) (kept : RecordId)
    (current : Values) (removed : List RecordId) : Step RecordOutcome := do
  let changed := changes current desired.values
  if changed.isEmpty then
    return .unchanged kept removed
  else
    Step.call (.write desired.kind kept changed)
    Action.record (.updated entity desired.kind kept changed.keys)
    return .updated kept removed

/-- Reduce records that share a key to the one with the lowest id, unless they
differ. -/
def deduplicate (entity : String) (desired : DesiredRecord) (kept : RecordId)
    (copies : List RecordId) (rows : List Values) : Step (Option Conflict) := do
  if copies.isEmpty then
    return none
  else
    let ids := kept :: copies
    match differingFields desired.fields rows with
    | [] =>
        Step.call (.unlink desired.kind copies)
        Action.record (.duplicatesRemoved entity desired.kind copies kept)
        return none
    | fields =>
        Action.warn .conflictingDuplicates
        Action.record (.conflictDetected entity desired.kind ids fields)
        return some
          { kind := desired.kind, count := ids.length, criteria := desired.criteria, fields, ids }

def record (entity : String) (desired : DesiredRecord) : Step RecordOutcome := do
  let found ← Step.call (.search desired.kind desired.criteria)
  match found.mergeSort (fun first second => first ≤ second) with
  | [] =>
      let id ← Step.call (.create desired.kind desired.values)
      Action.record (.created entity desired.kind id desired.name)
      return .created id
  | kept :: copies =>
      let rows ← Step.call (.read desired.kind (kept :: copies) desired.fields)
      let rows := rows.map Values.normalized
      match ← deduplicate entity desired kept copies rows with
      | some conflict => return .conflict conflict
      | none => update entity desired kept (rows.headD ∅) copies

/-- Register the external identifier of a desired record, if that is switched on
and a record stands for it. -/
def identify (policy : Policy) (entity : String) (desired : DesiredRecord) :
    Option RecordId → Step (Option IdentifierCollision)
  | none => return none
  | some id => do
      if policy.config.externalIds.enabled then
        let reference := ⟨policy.config.externalIds.module, desired.externalId⟩
        match ← Registration.register reference desired.kind id with
        | .created =>
            Action.record (.externalIdRegistered entity desired.kind id reference)
            return none
        | .existing => return none
        | .collision collision =>
            Action.record
              (.externalIdCollision entity desired.kind id reference collision.existing)
            return some collision
      else
        return none

def one (policy : Policy) (entity : String) (desired : DesiredRecord) :
    Step (RecordReport × Option IdentifierCollision) := do
  let outcome ← record entity desired
  let collision ← identify policy entity desired outcome.id?
  return (⟨desired.kind, desired.name, outcome⟩, collision)

def entitySavepoint : String := "tenantry_entity"

/-- A failure of an entity type, which also goes into the log. -/
def storeFailure (entity : String) (error : EngineError) : Action Failure := do
  Action.warn .storeOperationFailed
  return ⟨entity, .store, error.message⟩

/-- Close the savepoint of an entity type.  A failure to close it is one more
failure of the entity type. -/
def closeEntity (entity : String) (call : Call Unit) : Action (List Failure) := do
  match ← Action.attempt (Step.call call) with
  | .ok () => return []
  | .error error => return [← storeFailure entity error]

/-- Bring the desired records of an entity type into the store, or none of
them. -/
def records (policy : Policy) (outcome : EntityOutcome) (desired : List DesiredRecord) :
    Action EntityOutcome := do
  let entity := outcome.entity
  match ← Action.attempt (Step.call (.savepoint entitySavepoint)) with
  | .error error =>
      return { outcome with failures := outcome.failures ++ [← storeFailure entity error] }
  | .ok () =>
      match ← Action.attempt (desired.mapM (one policy entity)) with
      | .ok done =>
          let closing ← closeEntity entity (.releaseSavepoint entitySavepoint)
          return { outcome with
            records := done.map (·.1)
            collisions := done.filterMap (·.2)
            failures := outcome.failures ++ closing }
      | .error error =>
          let failure ← storeFailure entity error
          let closed ← Action.attempt (Step.call (.rollbackToSavepoint entitySavepoint))
          Action.warn .entityRolledBack
          let closing ← match closed with
            | .ok () => pure []
            | .error error => pure [← storeFailure entity error]
          return { outcome with failures := outcome.failures ++ failure :: closing }

/-- Reconcile one entity type.  The entity type of the rules themselves is never
secured. -/
def entity (policy : Policy) (entityType : EntityType) (managerGroup : Option RecordId) :
    Action EntityOutcome := do
  let securityClass := policy.classifier.classify entityType.name
  let outcome : EntityOutcome := { entity := entityType.name, securityClass }
  if entityType.name = EntityType.ruleName then
    return outcome
  else
    let manager := DesiredRecord.managerRecords entityType managerGroup
    match Rule.compile entityType.name securityClass policy.config.tenancy with
    | .ok rules => run outcome (DesiredRecord.globalRules entityType rules ++ manager)
    | .error error =>
        Action.warn .ruleCompilationFailed
        run { outcome with failures := [⟨entityType.name, .compile, error.message⟩] } manager
where
  run (outcome : EntityOutcome) (desired : List DesiredRecord) : Action EntityOutcome :=
    if desired.isEmpty then return outcome else records policy outcome desired

/-- Look up the manager group.  Without one its records are left out. -/
def managerGroup (policy : Policy) : Step (Option RecordId) := do
  match policy.config.managerReference? with
  | none =>
      Action.warn .malformedGroupReference
      return none
  | some reference =>
      let group ← Step.call (.resolveGroup reference)
      if group.isNone then
        Action.warn .managerGroupMissing
      return group

/-- The entity types in ascending order of their names; those of one name keep
their order. -/
def ordered (entities : List EntityType) : List EntityType :=
  entities.mergeSort fun first second => first.name ≤ second.name

/-- Reconcile every entity type of the catalog.  Only listing the catalog and
looking up the manager group can stop the pass. -/
def all (policy : Policy) : Step Summary := do
  let entities ← Step.call .entityTypes
  let group ← managerGroup policy
  let secured := (ordered entities).filter (·.name ≠ EntityType.ruleName)
  secured.foldlM
    (fun summary entityType => do return summary.absorb (← entity policy entityType group))
    { managerGroup := group }

end Reconcile

end TenantGuard
