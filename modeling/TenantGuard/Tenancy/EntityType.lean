/-!
# Entity types

The store's catalog lists its entity types, each with the id of its catalog
record and a dotted name.  Two of them hold the records that this library
generates.
-/

namespace TenantGuard

/-- The primary key of a record. -/
abbrev RecordId := Int

structure EntityType where
  id : RecordId
  name : String
  deriving DecidableEq, Repr

namespace EntityType

/-- The entity type of row rules.  It never receives rules itself. -/
def ruleName : String := "ir.rule"

def accessGrantName : String := "ir.model.access"

def partnerName : String := "res.partner"

/-- The name with an underscore for every dot. -/
def underscored (entity : EntityType) : String :=
  String.ofList (entity.name.toList.map fun c => if c = '.' then '_' else c)

end EntityType

end TenantGuard
