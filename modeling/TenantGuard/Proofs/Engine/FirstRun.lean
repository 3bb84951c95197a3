import Mathlib.Data.List.Nodup
import TenantGuard.Proofs.Engine.Independence
import TenantGuard.Proofs.Engine.Securing

/-!
# The first run

On a store without records nothing is found under any key, so a run that nothing hinders
creates every desired record, in order, and the records of the store are then those and no
others.  Their ids follow one another, so that the records about one entity type, which are
created together, stay in the order of its desired records.
-/

namespace TenantGuard

section numberedAfter

variable {last final : RecordId}

end numberedAfter

namespace Store

variable {store : Store}

/-- The store holds no records. -/
def Vacant (store : Store) : Prop :=
  ∀ kind, store.data.records kind = ∅

theorem Vacant.matching (vacant : store.Vacant) (desired : DesiredRecord) :
    store.matching desired = ∅ := by
  apply Std.ExtTreeMap.ext_getElem?
  intro id
  rw [Store.matching, RecordTable.getElem?_matching, vacant]
  simp

end Store

section Vacant

variable {list : List SettledRecord} {before after : Store} {final : RecordId}

end Vacant

namespace Policy

open DesiredRecord

variable {policy : Policy} {store : Store} {entityType : EntityType} {group : Option RecordId}

variable {rules : List Rule}

end Policy

namespace Secure

variable {policy : Policy} {before : Host} {summary : Summary} {after : Store}
  (passes : Passes policy before summary after) (unhindered : ¬ before.Hindered)
  (formed : before.store.WellFormed) (vacant : before.store.Vacant)

include passes unhindered formed vacant

end Secure

end TenantGuard
