import TenantGuard.Catalog.Classifier
import TenantGuard.Catalog.Rule

/-!
# Self-check of the catalog

Every class is compiled with the default tenant attribute, and every override
with its own.  An override that names a read attribute of its own for an entity
type without a rule that only governs reading is worth a warning, because
nothing uses that attribute.
-/

namespace TenantGuard

inductive Severity where
  | warning
  | error
  deriving DecidableEq, Repr

def Severity.label : Severity → String
  | .warning => "WARN"
  | .error => "ERROR"

structure CatalogFinding where
  severity : Severity
  securityClass : SecurityClass
  /-- The entity type of the override at fault, if one is. -/
  entity : Option String
  message : String
  deriving DecidableEq, Repr

namespace CatalogFinding

def text (finding : CatalogFinding) : String :=
  match finding.entity with
  | some entity =>
      s!"[{finding.severity.label}] {finding.securityClass.name} ({entity}): {finding.message}"
  | none => s!"[{finding.severity.label}] {finding.securityClass.name}: {finding.message}"

/-- An error, if the rules of a class do not compile for an entity name. -/
def ofRules (compiledAs : String) (securityClass : SecurityClass) (entity : Option String)
    (settings : TenancySettings) : List CatalogFinding :=
  match Rule.compile compiledAs securityClass settings with
  | .ok _ => []
  | .error error => [⟨.error, securityClass, entity, error.message⟩]

/-- A warning, if no rule of the class uses the read attribute. -/
def ofUnusedRead (securityClass : SecurityClass) (entity : String) (fields : TenantFields) :
    List CatalogFinding :=
  if fields.read ≠ fields.edit ∧ ¬ securityClass.templates.any (·.mode = .read) then
    [⟨.warning, securityClass, some entity,
      s!"read attribute '{fields.read}' is unused: {securityClass.name} rules are " ++
        s!"read-and-edit and filter on '{fields.edit}'"⟩]
  else
    []

/-- The name that stands for an entity type without an override. -/
def placeholder : String := "tenantry.check"

/-- Check every class, then every override in ascending order. -/
def all (classifier : Classifier) (settings : TenancySettings) : List CatalogFinding :=
  (SecurityClass.all.flatMap fun securityClass =>
    ofRules placeholder securityClass none settings) ++
  settings.overrides.toList.flatMap fun (entity, fields) =>
    let securityClass := classifier.classify entity
    ofRules entity securityClass (some entity) settings ++
      ofUnusedRead securityClass entity fields

end CatalogFinding

end TenantGuard
