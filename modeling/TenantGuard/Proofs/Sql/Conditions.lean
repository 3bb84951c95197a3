import TenantGuard.Proofs.Sql.Places
import TenantGuard.Record.Criterion

/-!
# Conditions of a search

A criterion of a search becomes a condition in its text.  The text is put together from the
shapes of the criteria: which kind of criterion each one is, on which field, and whether its
value is null.  A value other than null only takes the next place, so the places of a search are
numbered in the order of its values.
-/

namespace TenantGuard

open Sql

namespace Criterion

/-- What the text of a search tells about a criterion. -/
inductive Shape where
  | eq (field : String) (null : Bool)
  | isEmpty (field : String)
  | contains (field : String)
  deriving DecidableEq, Repr

def shape : Criterion → Shape
  | .eq field value => .eq field (value = .null)
  | .isEmpty field => .isEmpty field
  | .contains field _ => .contains field

/-- The value that a criterion is looked up by. -/
def bound? : Criterion → Option FieldValue
  | .eq _ value => if value = .null then none else some value
  | .isEmpty _ => none
  | .contains _ id => some (.ref id)

namespace Shape

/-- Whether a value takes a place in the text. -/
def binds : Shape → Bool
  | .eq _ null => !null
  | .isEmpty _ => false
  | .contains _ => true

/-- The condition that a criterion becomes, up to its value. -/
def opening : Shape → String
  | .eq field true => s!" AND t.\"{field}\" IS NULL"
  | .eq field false => s!" AND t.\"{field}\" = "
  | .isEmpty _ =>
      " AND NOT EXISTS (SELECT 1 FROM rule_group_rel r WHERE r.rule_group_id = t.id)"
  | .contains _ =>
      " AND EXISTS (SELECT 1 FROM rule_group_rel r WHERE r.rule_group_id = t.id AND r.group_id = "

/-- What follows the value. -/
def closing : Shape → String
  | .eq _ _ | .isEmpty _ => ""
  | .contains _ => ")"

/-- The condition that a criterion becomes if the next place has this number. -/
def condition (number : Nat) (shape : Shape) : String :=
  if shape.binds then shape.opening ++ (s!"${number}" ++ shape.closing) else shape.opening

/-- The conditions of a search, the places of which are numbered from here on. -/
def conditions (number : Nat) : List Shape → String
  | [] => ""
  | shape :: shapes =>
      shape.condition number ++ conditions (if shape.binds then number + 1 else number) shapes

theorem head?_opening (shape : Shape) : shape.opening.toList.head? = some ' ' := by
  cases shape with
  | eq field null => cases null <;> simp [opening, toString]
  | isEmpty field | contains field => simp [opening]

/-- A condition begins with a space, so it ends the number of the place before it. -/
theorem endsNumber_opening (shape : Shape) (rest : List Char) :
    EndsNumber (shape.opening.toList ++ rest) := by
  intro letter first
  rw [List.head?_append, head?_opening] at first
  cases first
  decide

theorem placesIn_condition {shape : Shape} (placeless : '$' ∉ shape.opening.toList)
    (number : Nat) :
    placesIn (shape.condition number).toList =
      if shape.binds then [(toString number).toList] else [] := by
  rw [condition]
  split
  next =>
    have text : (shape.opening ++ (s!"${number}" ++ shape.closing)).toList =
        shape.opening.toList ++ ('$' :: (toString number).toList ++ shape.closing.toList) := by
      simp [toString]
    rw [text]
    apply placesIn_place placeless
    · cases shape <;> simp [closing]
    · cases shape <;> simp [closing, EndsNumber]
  next => exact placesIn_eq_nil placeless

theorem endsNumber_conditions (number : Nat) (shapes : List Shape) :
    EndsNumber (conditions number shapes).toList := by
  cases shapes with
  | nil => simp [conditions, EndsNumber]
  | cons shape shapes =>
      rw [conditions, condition]
      split <;> simp only [String.toList_append, List.append_assoc] <;>
        exact endsNumber_opening shape _

/-- The places in the conditions have the numbers from the first one on. -/
theorem placesIn_conditions {shapes : List Shape}
    (placeless : ∀ shape ∈ shapes, '$' ∉ shape.opening.toList) (number : Nat) :
    placesIn (conditions number shapes).toList =
      (List.range' number (shapes.countP binds)).map fun number => (toString number).toList := by
  induction shapes generalizing number with
  | nil => rfl
  | cons shape shapes ih =>
      rw [List.forall_mem_cons] at placeless
      rw [conditions, String.toList_append, placesIn_append _ (endsNumber_conditions _ _),
        placesIn_condition placeless.1, ih placeless.2, List.countP_cons]
      by_cases binds : shape.binds = true
      · rw [if_pos binds, if_pos binds, if_pos binds, List.range'_succ, List.map_cons,
          List.singleton_append]
      · rw [if_neg binds, if_neg binds, if_neg binds, List.nil_append, Nat.add_zero]

end Shape

theorem isSome_bound? (criterion : Criterion) : criterion.bound?.isSome = criterion.shape.binds := by
  cases criterion with
  | eq field value => by_cases null : value = .null <;> simp [bound?, shape, Shape.binds, null]
  | isEmpty field | contains field id => rfl

end Criterion

end TenantGuard
