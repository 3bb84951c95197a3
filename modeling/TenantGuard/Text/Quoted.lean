import TenantGuard.Text.Combining
import TenantGuard.Text.Invisible

/-!
# Quoted names

A name is shown between double quotes so that every character of it can be told
apart: the quote and the backslash are escaped, line breaks, tabs and the zero
character have short escapes, and characters that would be invisible or would
join with their neighbour are written by their code.
-/

namespace TenantGuard.Text

def inRanges (ranges : List (Nat × Nat)) (code : Nat) : Bool :=
  ranges.any fun (first, last) => first ≤ code && code ≤ last

/-- Whether a character extends the one before it. -/
def isCombining (c : Char) : Bool :=
  inRanges combiningRanges c.toNat

/-- Whether a character shows nothing.  The plain space counts as visible. -/
def isInvisible (c : Char) : Bool :=
  inRanges invisibleRanges c.toNat

def shown (c : Char) : List Char :=
  if c = '"' then ['\\', '"']
  else if c = '\\' then ['\\', '\\']
  else if c = '\n' then ['\\', 'n']
  else if c = '\r' then ['\\', 'r']
  else if c = '\t' then ['\\', 't']
  else if c.toNat = 0 then ['\\', '0']
  else if 32 ≤ c.toNat ∧ c.toNat < 127 then [c]
  else if isCombining c ∨ isInvisible c then
    ['\\', 'u', '\x7b'] ++ Nat.toDigits 16 c.toNat ++ ['\x7d']
  else [c]

def quoted (name : String) : String :=
  String.ofList (['"'] ++ name.toList.flatMap shown ++ ['"'])

def quotedList (names : List String) : String :=
  "[" ++ ", ".intercalate (names.map quoted) ++ "]"

def intList (values : List Int) : String :=
  "[" ++ ", ".intercalate (values.map toString) ++ "]"

end TenantGuard.Text
