import TenantGuard.Catalog.Rule
import TenantGuard.Record.Criterion

/-!
# The records that the store should hold

For every entity type there is one global rule per compiled rule and, when the
manager group is known, a grant and a permissive rule for its members.  A desired
record carries its logical key: the criteria by which it is found again.  The key
never mentions the filter or the permissions, so a record whose predicate changed
is found and changed in place, not written a second time.
-/

namespace TenantGuard

structure DesiredRecord where
  kind : RecordKind
  name : String
  /-- The logical key. -/
  criteria : List Criterion
  values : Values
  /-- The name of its external identifier. -/
  externalId : String

namespace DesiredRecord

def fields (desired : DesiredRecord) : List String :=
  desired.values.keys

def permissionFields (permissions : Permissions) : List (String × FieldValue) :=
  [("perm_read", .bool permissions.read), ("perm_write", .bool permissions.write),
    ("perm_create", .bool permissions.create), ("perm_unlink", .bool permissions.unlink)]

def globalRuleName (entity : String) (rule : Rule) : String :=
  s!"{entity} - {rule.securityClass.ruleLabel}, {rule.mode.ruleLabel}"

/-- The global rule that a compiled rule is stored as.  It belongs to no group. -/
def globalRule (entity : EntityType) (rule : Rule) : DesiredRecord :=
  let name := globalRuleName entity.name rule
  { kind := .rule
    name
    criteria := [.eq "name" (.text name), .eq "model_id" (.ref entity.id), .isEmpty "groups"]
    values := .ofList <|
      [("name", .text name), ("model_id", .ref entity.id),
        ("domain_force", .text rule.domain), ("groups", .relation [])] ++
        permissionFields rule.permissions
    externalId := s!"{entity.underscored}_global_{rule.mode.stem}_rule" }

/-- The filter of the manager group's rule, which every record meets. -/
def permissiveDomain : String := Filter.always.domain

def managerName (entity : EntityType) : String :=
  s!"{entity.name} - company manager"

def managerGrant (entity : EntityType) (group : RecordId) : DesiredRecord :=
  let name := managerName entity
  { kind := .accessGrant
    name
    criteria :=
      [.eq "name" (.text name), .eq "model_id" (.ref entity.id), .eq "group_id" (.ref group)]
    values := .ofList <|
      [("name", .text name), ("model_id", .ref entity.id), ("group_id", .ref group)] ++
        permissionFields .full
    externalId := s!"{entity.underscored}_company_manager_access" }

/-- The manager group's rule, which hides nothing. -/
def managerRule (entity : EntityType) (group : RecordId) : DesiredRecord :=
  let name := managerName entity
  { kind := .rule
    name
    criteria :=
      [.eq "name" (.text name), .eq "model_id" (.ref entity.id), .contains "groups" group]
    values := .ofList <|
      [("name", .text name), ("model_id", .ref entity.id),
        ("domain_force", .text permissiveDomain), ("groups", .relation [group])] ++
        permissionFields .full
    externalId := s!"{entity.underscored}_company_manager_rule" }

def globalRules (entity : EntityType) (rules : List Rule) : List DesiredRecord :=
  rules.map (globalRule entity)

def managerRecords (entity : EntityType) : Option RecordId → List DesiredRecord
  | none => []
  | some group => [managerGrant entity group, managerRule entity group]

end DesiredRecord

end TenantGuard
