import TenantGuard.Decimal.Shortest

/-!
# JSON values and their text

A value keeps the fields of an object in the order in which they are written.
It has two texts: one on a single line without spaces, and one with every item
on a line of its own.
-/

namespace TenantGuard

inductive Json where
  | null
  | bool (value : Bool)
  | int (value : Int)
  | real (value : Float)
  | text (value : String)
  | list (items : List Json)
  | object (fields : List (String × Json))
  deriving Inhabited

namespace Json

def texts (values : List String) : Json :=
  .list (values.map .text)

def ints (values : List Int) : Json :=
  .list (values.map .int)

def nat (value : Nat) : Json :=
  .int value

def ofOption {α : Type} (encode : α → Json) : Option α → Json
  | none => .null
  | some value => encode value

/-- One field, or none when the value is absent. -/
def field? {α : Type} (name : String) (encode : α → Json) : Option α → List (String × Json)
  | none => []
  | some value => [(name, encode value)]

/-- The four hexadecimal digits of a code below 65536. -/
def fourHexDigits (code : Nat) : String :=
  String.ofList ([4096, 256, 16, 1].map fun unit => Nat.digitChar (code / unit % 16))

def escape (c : Char) : String :=
  if c = '"' then "\\\""
  else if c = '\\' then "\\\\"
  else if c = '\n' then "\\n"
  else if c = '\r' then "\\r"
  else if c = '\t' then "\\t"
  else if c.toNat = 8 then "\\b"
  else if c.toNat = 12 then "\\f"
  else if c.toNat < 32 then "\\u" ++ fourHexDigits c.toNat
  else c.toString

def quoted (value : String) : String :=
  "\"" ++ String.join (value.toList.map escape) ++ "\""

/-- Numbers write a point while it falls among or next to seventeen places. -/
def numberStyle : Decimal.Notation := ⟨-5, 17⟩

/-- A number that is not finite has no text and reads as null. -/
def realText (value : Float) : String :=
  if value.isFinite then numberStyle.textOf value else "null"

def leafText : Json → String
  | .null => "null"
  | .bool true => "true"
  | .bool false => "false"
  | .int value => toString value
  | .real value => realText value
  | .text value => quoted value
  | .list _ => "[]"
  | .object _ => "\x7b\x7d"

mutual

def compact : Json → String
  | .list items => "[" ++ ",".intercalate (compactItems items) ++ "]"
  | .object fields => "\x7b" ++ ",".intercalate (compactFields fields) ++ "\x7d"
  | leaf => leaf.leafText

def compactItems : List Json → List String
  | [] => []
  | item :: rest => item.compact :: compactItems rest

def compactFields : List (String × Json) → List String
  | [] => []
  | (name, value) :: rest => (quoted name ++ ":" ++ value.compact) :: compactFields rest

end

/-- Lines between a pair of brackets, indented by two more spaces than
`indent`. -/
def bracketed (left right indent : String) (items : List String) : String :=
  let inner := indent ++ "  "
  left ++ "\n" ++ ",\n".intercalate (items.map (inner ++ ·)) ++ "\n" ++ indent ++ right

mutual

/-- The text with one item per line, two spaces deeper for every level.  Empty
lists and objects stay on one line. -/
def prettyFrom (indent : String) : Json → String
  | .list (item :: rest) =>
      bracketed "[" "]" indent (prettyItems (indent ++ "  ") (item :: rest))
  | .object (field :: rest) =>
      bracketed "\x7b" "\x7d" indent (prettyFields (indent ++ "  ") (field :: rest))
  | leaf => leaf.leafText

def prettyItems (indent : String) : List Json → List String
  | [] => []
  | item :: rest => item.prettyFrom indent :: prettyItems indent rest

def prettyFields (indent : String) : List (String × Json) → List String
  | [] => []
  | (name, value) :: rest =>
      (quoted name ++ ": " ++ value.prettyFrom indent) :: prettyFields indent rest

end

def pretty (value : Json) : String :=
  value.prettyFrom ""

end Json

end TenantGuard
