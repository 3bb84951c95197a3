import Std.Data.ExtTreeMap
import TenantGuard.Tenancy.Access

/-!
# Where an entity type keeps its tenant

Most entity types hold the tenant reference in one attribute.  Some hold it in
another, or read through one attribute and edit through a second: a tenant
filters on its own id, and an actor reads through all its tenants but edits
through the current one.
-/

namespace TenantGuard

/-- The attributes of one entity type: one for the rules that only govern reading,
one for all others. -/
structure TenantFields where
  read : String
  edit : String
  deriving DecidableEq, Repr

/-- The entity types that the host store keeps tenants in under other names. -/
def TenantFields.builtin : Std.ExtTreeMap String TenantFields :=
  .ofList
    [("res.company", TenantFields.mk "id" "id"),
      ("res.users", TenantFields.mk "company_ids" "company_id")]

structure TenancySettings where
  /-- The attribute of an entity type without an override. -/
  defaultField : String := "company_id"
  overrides : Std.ExtTreeMap String TenantFields := TenantFields.builtin
  systemTenant : Int := 1

def TenancySettings.tenantField (settings : TenancySettings) (entity : String)
    (mode : AccessMode) : String :=
  match settings.overrides[entity]? with
  | some fields => if mode = .read then fields.read else fields.edit
  | none => settings.defaultField

end TenantGuard
