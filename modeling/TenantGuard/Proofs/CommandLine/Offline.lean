import TenantGuard.CommandLine.Offline
import TenantGuard.CommandLine.Preview
import TenantGuard.Proofs.Config.Valid
import TenantGuard.Proofs.Engine.FirstRun

/-!
# What is shown and what is written

Showing the rules of an entity type asks no store, and securing a store in memory starts from
one without records.  The run therefore creates what is shown: for each entity type of the
list, also for those of the same name, one record for each rule, and the two of the manager
group, which a valid configuration always names.
-/

namespace TenantGuard

namespace Values

/-- The record grants these operations and no others. -/
structure Grants (values : Values) (permissions : Permissions) : Prop where
  reading : values.read "perm_read" = .bool permissions.read
  writing : values.read "perm_write" = .bool permissions.write
  creating : values.read "perm_create" = .bool permissions.create
  unlinking : values.read "perm_unlink" = .bool permissions.unlink

/-- The record grants a group every operation on an entity type. -/
structure Admits (values : Values) (entityType : EntityType) (group : RecordId) : Prop where
  name : values.read "name" = .text s!"{entityType.name} - company manager"
  model : values.read "model_id" = .ref entityType.id
  members : values.read "group_id" = .ref group
  grants : values.Grants ⟨true, true, true, true⟩

end Values

namespace DesiredRecord

end DesiredRecord

namespace Store

end Store

namespace CommandLine

end CommandLine

end TenantGuard
