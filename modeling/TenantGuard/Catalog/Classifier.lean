import Std.Data.ExtTreeSet
import TenantGuard.Tenancy.Access
import TenantGuard.Tenancy.EntityType

/-!
# Classification of entity types

Four classes have lists of members.  An entity type on several lists belongs to
the most restrictive of them, one on no list is tenant scoped, and the partner
entity has a class of its own whatever the lists say.
-/

namespace TenantGuard

/-- The entity names listed for each class. -/
structure Classifier where
  members : SecurityClass → Std.ExtTreeSet String := fun _ => ∅

namespace Classifier

/-- The classifier with no members. -/
def empty : Classifier := {}

/-- Add names to the list of a class. -/
def withMembers (classifier : Classifier) (securityClass : SecurityClass)
    (entities : List String) : Classifier where
  members other :=
    if other = securityClass then
      (classifier.members other).insertMany entities
    else
      classifier.members other

/-- The classes that lists decide, the one that wins first. -/
def priority : List SecurityClass :=
  [.noAccess, .globalReadShared, .tenantScopedReadShared, .tenants]

def classify (classifier : Classifier) (entity : String) : SecurityClass :=
  if entity = EntityType.partnerName then
    .sharedPartner
  else
    (priority.find? fun securityClass =>
      (classifier.members securityClass).contains entity).getD .tenantScoped

theorem mem_members_withMembers (classifier : Classifier) (added securityClass : SecurityClass)
    (entities : List String) (entity : String) :
    entity ∈ (classifier.withMembers added entities).members securityClass ↔
      entity ∈ classifier.members securityClass ∨
        (securityClass = added ∧ entity ∈ entities) := by
  by_cases same : securityClass = added
  · simp [withMembers, same, or_comm]
  · simp [withMembers, same]

end Classifier

end TenantGuard
