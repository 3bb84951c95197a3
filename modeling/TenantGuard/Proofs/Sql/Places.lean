import Mathlib.Data.List.TakeWhile
import TenantGuard.Sql.Identifier

/-!
# Numbered places

A place of a statement is written as a dollar sign and a number, so the places can be found
again in the text: they are the dollar signs with the digits behind them.  A text without dollar
signs adds none, provided that it does not go on with digits where a number ended.
-/

namespace TenantGuard.Sql

/-- The digits behind each dollar sign of a text, in the order of the text. -/
def placesIn : List Char → List (List Char)
  | [] => []
  | letter :: rest =>
      if letter = '$' then rest.takeWhile Char.isDigit :: placesIn rest else placesIn rest

/-- Text that ends a number in front of it. -/
def EndsNumber (text : List Char) : Prop :=
  ∀ letter ∈ text.head?, ¬ letter.isDigit

theorem takeWhile_isDigit_append (digits : List Char) {rest : List Char} (ends : EndsNumber rest) :
    (digits ++ rest).takeWhile Char.isDigit = digits.takeWhile Char.isDigit := by
  have stops : rest.takeWhile Char.isDigit = [] := by
    cases rest with
    | nil => rfl
    | cons letter rest => exact List.takeWhile_cons_of_neg (ends letter rfl)
  rw [List.takeWhile_append, stops, List.append_nil]
  split
  next whole => exact ((List.takeWhile_prefix _).eq_of_length whole).symm
  next => rfl

/-- The places of two texts are those of the one and those of the other. -/
theorem placesIn_append (first : List Char) {second : List Char} (ends : EndsNumber second) :
    placesIn (first ++ second) = placesIn first ++ placesIn second := by
  induction first with
  | nil => rfl
  | cons letter rest ih =>
      rw [List.cons_append, placesIn, placesIn, ih]
      split
      · rw [takeWhile_isDigit_append rest ends, List.cons_append]
      · rfl

theorem placesIn_eq_nil {text : List Char} (none : '$' ∉ text) : placesIn text = [] := by
  induction text with
  | nil => rfl
  | cons letter rest ih =>
      rw [List.mem_cons, not_or] at none
      rw [placesIn, if_neg (Ne.symm none.1), ih none.2]

theorem isDigit_of_mem_toString {number : Nat} {letter : Char}
    (listed : letter ∈ (toString number).toList) : letter.isDigit := by
  rw [Nat.toString_eq_repr, Nat.toList_repr] at listed
  exact Nat.isDigit_of_mem_toDigits (by decide) (by decide) listed

/-- The place of a number in text without others. -/
theorem placesIn_place {before behind : List Char} (noneBefore : '$' ∉ before)
    (noneBehind : '$' ∉ behind) (ends : EndsNumber behind) (number : Nat) :
    placesIn (before ++ ('$' :: (toString number).toList ++ behind)) =
      [(toString number).toList] := by
  have starts : EndsNumber ('$' :: (toString number).toList ++ behind) := by
    rintro letter ⟨⟩
    decide
  have noneWithin : '$' ∉ (toString number).toList := by
    intro listed
    have digit := isDigit_of_mem_toString listed
    revert digit
    decide
  have whole : (toString number).toList.takeWhile Char.isDigit = (toString number).toList :=
    List.takeWhile_eq_self_iff.mpr fun _ listed => isDigit_of_mem_toString listed
  rw [placesIn_append before starts, placesIn_eq_nil noneBefore, List.nil_append,
    placesIn_append _ ends, placesIn_eq_nil noneBehind, List.append_nil, placesIn, if_pos rfl,
    placesIn_eq_nil noneWithin, whole]

end TenantGuard.Sql
