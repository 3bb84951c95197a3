import TenantGuard.Config.Basic
import TenantGuard.Text.Blank
import TenantGuard.Text.Words

/-!
# Valid configurations

What a configuration has to meet beyond its shape: names are not blank, tenant
ids are positive, and the manager group is written as a module and a name.  The
first fault is reported.
-/

namespace TenantGuard

/-- What is wrong with a configuration. -/
inductive ConfigError where
  | blankDefaultField
  | blankOverride (entity : String)
  | systemTenantNotPositive (value : Int)
  | malformedManagerGroup (reference : String)
  | blankModule
  | blankColumn
  | defaultTenantNotPositive (value : Int)
  deriving DecidableEq, Repr

namespace ConfigError

def detail : ConfigError → String
  | .blankDefaultField => "tenancy.default_field must not be empty"
  | .blankOverride entity =>
      s!"tenancy.overrides.{entity} must name both read and edit attributes"
  | .systemTenantNotPositive value => s!"tenancy.system_tenant must be positive, got {value}"
  | .malformedManagerGroup reference =>
      s!"manager_group '{reference}' must be a 'module.name' reference"
  | .blankModule => "external_ids.module must not be empty"
  | .blankColumn => "backfill.column must not be empty"
  | .defaultTenantNotPositive value =>
      s!"backfill.default_tenant must be positive, got {value}"

def message (error : ConfigError) : String :=
  s!"Configuration error: {error.detail}"

end ConfigError

/-- Letters and digits of the basic alphabet, and the underscore. -/
def isWordLetter (c : Char) : Bool :=
  c.isAlphanum || c = '_'

/-- Whether a text is two words with a dot between them. -/
def isSymbolicReference (text : String) : Bool :=
  match Text.pieces '.' text.toList with
  | [module, name] =>
      !module.isEmpty && !name.isEmpty && module.all isWordLetter && name.all isWordLetter
  | _ => false

/-- Stop with an error if a fault is there. -/
def refuseIf (fault : Bool) (error : ConfigError) : Except ConfigError Unit :=
  if fault then .error error else .ok ()

def TenancySettings.validate (settings : TenancySettings) : Except ConfigError Unit := do
  refuseIf (Text.blank settings.defaultField) .blankDefaultField
  settings.overrides.toList.forM fun (entity, fields) =>
    refuseIf (Text.blank fields.read || Text.blank fields.edit) (.blankOverride entity)
  refuseIf (settings.systemTenant ≤ 0) (.systemTenantNotPositive settings.systemTenant)

def Config.validate (config : Config) : Except ConfigError Unit := do
  config.tenancy.validate
  refuseIf (!isSymbolicReference config.managerGroup)
    (.malformedManagerGroup config.managerGroup)
  refuseIf (config.externalIds.enabled && Text.blank config.externalIds.module) .blankModule
  refuseIf (Text.blank config.backfill.column) .blankColumn
  refuseIf (config.backfill.defaultTenant ≤ 0)
    (.defaultTenantNotPositive config.backfill.defaultTenant)

end TenantGuard
