import TenantGuard.Engine.Step

/-!
# External identifiers of generated records

A generated record can be known to other systems by a stable name.  A name that
already stands for another record is left alone and reported.
-/

namespace TenantGuard

/-- What became of an external identifier. -/
inductive Registration where
  | created
  /-- It already stood for the record. -/
  | existing
  | collision (collision : IdentifierCollision)
  deriving DecidableEq, Repr

namespace Registration

/-- Let an external identifier stand for a record, unless it is taken. -/
def register (reference : Reference) (kind : RecordKind) (id : RecordId) :
    Step Registration := do
  let wanted : Target := ⟨kind.entity, id⟩
  match ← Step.call (.findExternalId reference) with
  | none =>
      Step.call (.createExternalId reference wanted)
      return .created
  | some target =>
      if target = wanted then
        return .existing
      else
        Action.warn .identifierCollision
        return .collision { reference, existing := target, wanted }

end Registration

end TenantGuard
