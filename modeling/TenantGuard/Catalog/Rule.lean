import TenantGuard.Predicate.Basic
import TenantGuard.Tenancy.Settings

/-!
# The rules of a security class

Each class has templates: access modes, each with the predicate that a record
has to meet.  Compiling them for one entity type puts in its tenant attributes
and gives the rules that the store should hold for it.
-/

namespace TenantGuard

structure RuleTemplate where
  mode : AccessMode
  predicate : String
  deriving DecidableEq, Repr

namespace SecurityClass

/-- The record belongs to the selected tenant's hierarchy. -/
def inSelectedHierarchy : String := "allowed_companies AND selected_company/parent/child"

/-- The record belongs to the system tenant, which the actor has selected. -/
def systemOnly : String := "system_company AND ( allowed_companies AND selected_company )"

/-- The templates of a class, in the order of the rules. -/
def templates : SecurityClass → List RuleTemplate
  | .tenants =>
      [⟨.read, "allowed_companies"⟩, ⟨.edit, inSelectedHierarchy⟩]
  | .sharedPartner =>
      [⟨.read, "false OR ( allowed_companies AND selected_company/parent/child )"⟩,
        ⟨.edit, inSelectedHierarchy⟩]
  | .tenantScoped =>
      [⟨.readAndEdit, inSelectedHierarchy⟩]
  | .tenantScopedReadShared =>
      [⟨.read, "system_company OR ( allowed_companies AND selected_company/parent/child )"⟩,
        ⟨.edit, inSelectedHierarchy⟩]
  | .globalReadShared =>
      [⟨.read, "system_company"⟩, ⟨.edit, systemOnly⟩]
  | .noAccess =>
      [⟨.readAndEdit, systemOnly⟩]

end SecurityClass

/-- A template compiled for one entity type. -/
structure Rule where
  entity : String
  securityClass : SecurityClass
  mode : AccessMode
  permissions : Permissions
  tenantField : String
  filter : Filter
  deriving Repr

def Rule.domain (rule : Rule) : String :=
  rule.filter.domain

structure RuleError where
  entity : String
  securityClass : SecurityClass
  mode : AccessMode
  predicate : String
  cause : Predicate.Error
  deriving DecidableEq, Repr

def RuleError.message (error : RuleError) : String :=
  s!"{error.securityClass.name} {error.mode.stem} predicate '{error.predicate}' for " ++
    s!"{error.entity}: {error.cause.message}"

namespace Rule

def ofTemplate (entity : String) (securityClass : SecurityClass) (settings : TenancySettings)
    (template : RuleTemplate) : Except RuleError Rule :=
  let tenantField := settings.tenantField entity template.mode
  match Predicate.render template.predicate ⟨tenantField, settings.systemTenant⟩ with
  | .ok filter =>
      .ok
        { entity, securityClass, tenantField, filter
          mode := template.mode
          permissions := template.mode.permissions }
  | .error cause =>
      .error { entity, securityClass, mode := template.mode, predicate := template.predicate, cause }

/-- All rules of a class for an entity type, or the first error. -/
def compile (entity : String) (securityClass : SecurityClass) (settings : TenancySettings) :
    Except RuleError (List Rule) :=
  securityClass.templates.mapM (ofTemplate entity securityClass settings)

end Rule

end TenantGuard
