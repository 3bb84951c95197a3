import TenantGuard.Yaml.Character

/-!
# Spacing inside scalars

Between two words of a plain or quoted scalar, spacing on one line is kept.
Across lines the spacing around the breaks is dropped; one line feed reads as a
space, and of several line feeds all but the first are kept.
-/

namespace TenantGuard.Yaml

/-- Spacing and line breaks between two words, the last character first. -/
structure Gap where
  spacing : List Char := []
  /-- The first line break; an escaped one counts but writes nothing. -/
  first : Option (List Char) := none
  later : List Char := []

namespace Gap

def broken (gap : Gap) : Bool :=
  gap.first.isSome

def isEmpty (gap : Gap) : Bool :=
  gap.spacing.isEmpty && !gap.broken

def space (gap : Gap) (c : Char) : Gap :=
  if gap.broken then gap else { gap with spacing := c :: gap.spacing }

def line (gap : Gap) (c : Char) : Gap :=
  match gap.first with
  | none => { first := some [c] }
  | some _ => { gap with later := c :: gap.later }

def escapedLine : Gap :=
  { first := some [] }

/-- What the gap reads as, the last character first. -/
def folded (gap : Gap) : List Char :=
  match gap.first with
  | none => gap.spacing
  | some ['\n'] => if gap.later.isEmpty then [' '] else gap.later
  | some first => gap.later ++ first

end Gap

end TenantGuard.Yaml
