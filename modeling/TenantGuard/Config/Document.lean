import TenantGuard.Config.Validity
import TenantGuard.Yaml.Nesting
import TenantGuard.Yaml.Scalar

/-!
# Configurations as documents

A configuration is written as a mapping of sections.  What is left out has its
default, and an empty section is one without fields; names that mean nothing
are passed over, but a known name may not come twice.
-/

namespace TenantGuard.Yaml.Document

/-- The text of a scalar, as it is written. -/
def text (document : Document) (node : Node) : Reading String :=
  match document.resolve node with
  | .scalar _ _ text => .ok text
  | _ => .error (.mismatch "a string")

/-- The fields of a mapping.  Nothing at all is a mapping without fields. -/
def fields (document : Document) (node : Node) : Reading (List (String × Node)) :=
  match document.resolve node with
  | .mapping _ entries => entries.mapM fun (key, value) => do
      let name ← document.text key
      return (name, value)
  | .scalar _ .plain "" => .ok []
  | _ => .error (.mismatch "a mapping")

/-- The text of a scalar that may be of a kind: a plain one, or a literal block
with the tag of the kind. -/
def formOf (document : Document) (kind : String) (node : Node) : Reading String :=
  match document.resolve node with
  | .scalar _ .plain text => .ok text
  | .scalar properties .literal text =>
      if properties.tag = some (Scalar.coreTag kind) then .ok text
      else .error (.mismatch kind)
  | _ => .error (.mismatch kind)

def bool (document : Document) (node : Node) : Reading Bool := do
  let form ← document.formOf "bool" node
  match Scalar.bool? form with
  | some value => return value
  | none => .error (.mismatch "a boolean")

/-- A whole number below a bound, without a minus sign. -/
def naturalBelow (bound : Nat) (document : Document) (node : Node) : Reading Nat := do
  let form ← document.formOf "int" node
  match Scalar.natural? form with
  | some value => if value < bound then return value else .error .outOfRange
  | none => .error (.mismatch "an integer")

/-- A whole number of 64 binary digits. -/
def integer (document : Document) (node : Node) : Reading Int := do
  let form ← document.formOf "int" node
  match Scalar.integer? form with
  | some value =>
      if -(1 <<< 63 : Nat) ≤ value ∧ value < (1 <<< 63 : Nat) then return value else .error .outOfRange
  | none => .error (.mismatch "an integer")

/-- A text, or none where null is written. -/
def text? (document : Document) (node : Node) : Reading (Option String) :=
  match document.resolve node with
  | .scalar properties .plain text =>
      match properties.tag with
      | none => .ok (if text.isEmpty || Scalar.isNull text then none else some text)
      | some tag =>
          if tag ≠ Scalar.coreTag "null" then .ok (some text)
          else if Scalar.isNull text then .ok none
          else .error (.mismatch "null")
  | .scalar _ _ text => .ok (some text)
  | _ => .error (.mismatch "a string")

/-- Read the field of a name, if it is there. -/
def field? {α : Type} (document : Document) (read : Document → Node → Reading α)
    (fields : List (String × Node)) (name : String) : Reading (Option α) :=
  match fields.filter fun field => field.1 = name with
  | [] => .ok none
  | [(_, node)] => (read document node).map some
  | _ => .error (.repeatedKey name)

/-- Read the field of a name, or take its default. -/
def field {α : Type} (document : Document) (read : Document → Node → Reading α)
    (fields : List (String × Node)) (name : String) (default : α) : Reading α := do
  let value ← document.field? read fields name
  return value.getD default

/-- Read the field of a name that has to be there. -/
def requiredField {α : Type} (document : Document) (read : Document → Node → Reading α)
    (fields : List (String × Node)) (name : String) : Reading α := do
  let value ← document.field? read fields name
  match value with
  | some value => return value
  | none => .error (.missingField name)

def databaseSettings (document : Document) (node : Node) : Reading DatabaseSettings := do
  let fields ← document.fields node
  let unset : DatabaseSettings := {}
  let host ← document.field text fields "host" unset.host
  let port ← document.field (naturalBelow UInt16.size) fields "port" unset.port
  let database ← document.field text fields "database" unset.database
  let username ← document.field text fields "username" unset.username
  let password ← document.field text? fields "password" unset.password
  let credentialsVariable ←
    document.field text? fields "credentials_env" unset.credentialsVariable
  let maxConnections ←
    document.field (naturalBelow UInt32.size) fields "max_connections" unset.maxConnections
  return { host, port, database, username, password, credentialsVariable, maxConnections }

def tenantFields (document : Document) (node : Node) : Reading TenantFields := do
  let fields ← document.fields node
  let read ← document.requiredField text fields "read"
  let edit ← document.requiredField text fields "edit"
  return { read, edit }

/-- Overrides by entity name.  Of entries with the same name the last counts. -/
def overrides (document : Document) (node : Node) :
    Reading (Std.ExtTreeMap String TenantFields) := do
  let fields ← document.fields node
  let entries ← fields.mapM fun (entity, node) => do
    let attributes ← document.tenantFields node
    return (entity, attributes)
  return .ofList entries

def tenancySettings (document : Document) (node : Node) : Reading TenancySettings := do
  let fields ← document.fields node
  let unset : TenancySettings := {}
  let defaultField ← document.field text fields "default_field" unset.defaultField
  let overrides ← document.field overrides fields "overrides" unset.overrides
  let systemTenant ← document.field integer fields "system_tenant" unset.systemTenant
  return { defaultField, overrides, systemTenant }

def externalIdSettings (document : Document) (node : Node) : Reading ExternalIdSettings := do
  let fields ← document.fields node
  let unset : ExternalIdSettings := {}
  let enabled ← document.field bool fields "enabled" unset.enabled
  let module ← document.field text fields "module" unset.module
  return { enabled, module }

def backfillSettings (document : Document) (node : Node) : Reading BackfillSettings := do
  let fields ← document.fields node
  let unset : BackfillSettings := {}
  let enabled ← document.field bool fields "enabled" unset.enabled
  let column ← document.field text fields "column" unset.column
  let defaultTenant ← document.field integer fields "default_tenant" unset.defaultTenant
  return { enabled, column, defaultTenant }

def logSettings (document : Document) (node : Node) : Reading LogSettings := do
  let fields ← document.fields node
  let unset : LogSettings := {}
  let filter ← document.field text fields "log_filter" unset.filter
  return { filter }

/-- The configuration that a document holds. -/
def config (document : Document) : Reading Config := do
  let fields ← document.root.elim (.ok []) document.fields
  let unset : Config := {}
  let database ← document.field databaseSettings fields "database" unset.database
  let tenancy ← document.field tenancySettings fields "tenancy" unset.tenancy
  let managerGroup ← document.field text fields "manager_group" unset.managerGroup
  let externalIds ← document.field externalIdSettings fields "external_ids" unset.externalIds
  let backfill ← document.field backfillSettings fields "backfill" unset.backfill
  let log ← document.field logSettings fields "observability" unset.log
  return { database, tenancy, managerGroup, externalIds, backfill, log }

end TenantGuard.Yaml.Document

namespace TenantGuard

/-- Why a text is no valid configuration. -/
inductive ConfigFault where
  | document (fault : Yaml.Fault)
  | settings (error : ConfigError)
  deriving DecidableEq, Repr

def ConfigFault.message : ConfigFault → String
  | .document fault => fault.message
  | .settings error => error.message

namespace Config

/-- The valid configuration that a text holds.  A blank text is one with all
defaults. -/
def ofText (content : String) : Except ConfigFault Config := do
  let config ←
    if Text.blank content then .ok {}
    else
      match Yaml.Document.ofText content >>= Yaml.Document.config with
      | .ok config => .ok config
      | .error fault => .error (.document fault)
  match config.validate with
  | .ok () => return config
  | .error error => .error (.settings error)

end Config

end TenantGuard
