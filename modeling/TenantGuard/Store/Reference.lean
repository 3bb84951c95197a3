import Std.Data.ExtTreeMap
import TenantGuard.Tenancy.EntityType

/-!
# Symbolic references

Groups and generated records are known by a module and a name within it.  The
store keeps both in ascending order of the module and then of the name.
-/

namespace TenantGuard

/-- A name in the namespace of a module. -/
structure Reference where
  module : String
  name : String
  deriving DecidableEq, Repr

namespace Reference

instance : Ord Reference where
  compare := compareLex (compareOn Reference.module) (compareOn Reference.name)

instance : Std.TransOrd Reference :=
  inferInstanceAs
    (Std.TransCmp (compareLex (compareOn Reference.module) (compareOn Reference.name)))

instance : Std.LawfulEqOrd Reference where
  eq_of_compare {first second} equal := by
    obtain ⟨sameModule, sameName⟩ : compareOn Reference.module first second = .eq ∧
        compareOn Reference.name first second = .eq :=
      compareLex_eq_eq.mp equal
    cases first
    cases second
    simp_all [compareOn]

/-- The reference as it is written. -/
def text (reference : Reference) : String :=
  s!"{reference.module}.{reference.name}"

/-- Read a reference.  Everything up to the first dot is the module. -/
def ofText? (text : String) : Option Reference :=
  let letters := text.toList
  match letters.dropWhile (· ≠ '.') with
  | [] => none
  | _ :: name => some ⟨String.ofList (letters.takeWhile (· ≠ '.')), String.ofList name⟩

end Reference

/-- The record that an external identifier stands for. -/
structure Target where
  /-- The entity type of the record. -/
  entity : String
  id : RecordId
  deriving DecidableEq, Repr

end TenantGuard
