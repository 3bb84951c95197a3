/-!
# Words between single separators

A text is cut at every occurrence of one separator character.  Nothing is
skipped: two separators in a row enclose an empty word, and the empty text is
one empty word, so joining the words with the separator gives the text back.
-/

namespace TenantGuard.Text

/-- The stretches between occurrences of `separator`, in order, empty ones
included. -/
def pieces (separator : Char) : List Char → List (List Char)
  | [] => [[]]
  | c :: rest =>
      if c = separator then
        [] :: pieces separator rest
      else
        match pieces separator rest with
        | [] => [[c]]
        | piece :: others => (c :: piece) :: others

theorem pieces_ne_nil (separator : Char) (text : List Char) :
    pieces separator text ≠ [] := by
  cases text with
  | nil => simp [pieces]
  | cons c rest =>
      simp only [pieces]
      split
      · simp
      · split <;> simp

/-- Put the pieces back together with the separator between them. -/
def joined (separator : Char) : List (List Char) → List Char
  | [] => []
  | [piece] => piece
  | piece :: next :: others => piece ++ separator :: joined separator (next :: others)

/-- Cutting loses nothing. -/
theorem joined_pieces (separator : Char) (text : List Char) :
    joined separator (pieces separator text) = text := by
  induction text with
  | nil => rfl
  | cons c rest ih =>
      obtain ⟨piece, others, cut⟩ := List.exists_cons_of_ne_nil (pieces_ne_nil separator rest)
      rw [cut] at ih
      simp only [pieces, cut]
      split
      next equal => simp [joined, ih, equal]
      next =>
        cases others with
        | nil => simpa [joined] using ih
        | cons next others => simpa [joined] using ih

/-- The words of a text between single spaces. -/
def words (text : String) : List String :=
  (pieces ' ' text.toList).map String.ofList

end TenantGuard.Text
