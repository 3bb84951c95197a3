import TenantGuard.Catalog.Builtin
import TenantGuard.CommandLine.Response
import TenantGuard.Config.Basic
import TenantGuard.Json.Rule
import TenantGuard.Tenancy.EntityType

/-!
# Showing classes and rules

These commands show what the catalog says about entity types, without a store.
-/

namespace TenantGuard.CommandLine

def padded (width : Nat) (text : String) : String :=
  text ++ "".pushn ' ' (width - text.length)

namespace Preview

/-- The classes of entity types, one below the other.  The column of names is as
wide as the longest name has octets. -/
def classLines (entities : List String) : List String :=
  let width := (entities.map String.utf8ByteSize).foldl max 0
  entities.map fun entity =>
    padded width entity ++ "  " ++ (Classifier.builtin.classify entity).name

def rules (config : Config) (entity : String) : Except RuleError (List Rule) :=
  Rule.compile entity (Classifier.builtin.classify entity) config.tenancy

def permissionLetters (permissions : Permissions) : String :=
  let letter (granted : Bool) (c : Char) := if granted then c else '-'
  String.ofList
    [letter permissions.read 'r', letter permissions.write 'w',
      letter permissions.create 'c', letter permissions.unlink 'd']

def ruleLines (rule : Rule) : List String :=
  let label := padded 17 rule.mode.ruleLabel
  let letters := permissionLetters rule.permissions
  [s!"  {label} {letters}  field={rule.tenantField}", s!"    {rule.domain}"]

/-- Show the rules of an entity type.  The entity type of the rules themselves
has none. -/
def respond (config : Config) (entity : String) (asJson : Bool) : Response :=
  if entity = EntityType.ruleName then
    ({} : Response).complain ⟨s!"{entity} never receives generated rules", []⟩
  else
    match rules config entity with
    | .error error =>
        ({} : Response).complain ⟨s!"Failed to compile rules for {entity}", [error.message]⟩
    | .ok rules =>
        if asJson then Response.ofLines [(Json.list (rules.map Rule.json)).pretty]
        else
          let securityClass := Classifier.builtin.classify entity
          Response.ofLines (s!"{entity} ({securityClass.name})" :: rules.flatMap ruleLines)

end Preview

end TenantGuard.CommandLine
