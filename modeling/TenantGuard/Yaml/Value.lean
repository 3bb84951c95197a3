import Std.Data.ExtTreeMap
import TenantGuard.Json.Basic
import TenantGuard.Yaml.Nesting
import TenantGuard.Yaml.Scalar

/-!
# Documents as values

A document is read as a value without asking for any shape.  A tag of the
document's own stays with its value; the tags of the core kinds decide how a
scalar is read.  Values then become JSON where their keys are simple enough.
-/

namespace TenantGuard.Yaml

inductive Value where
  | null
  | bool (value : Bool)
  | int (value : Int)
  | real (value : Float)
  | text (value : String)
  | list (items : List Value)
  | mapping (entries : List (Value × Value))
  | tagged (tag : String) (value : Value)
  deriving Inhabited

namespace Value

mutual

/-- Whether two values are the same as keys.  The order of entries does not
matter, and a number is the same as itself even if it is none. -/
def same : Value → Value → Bool
  | .null, .null => true
  | .bool a, .bool b => a = b
  | .int a, .int b => a = b
  | .real a, .real b => a == b || (a.isNaN && b.isNaN)
  | .text a, .text b => a = b
  | .list a, .list b => sameItems a b
  | .mapping a, .mapping b => a.length = b.length && sameEntries a b
  | .tagged s a, .tagged t b => s = t && same a b
  | _, _ => false

def sameItems : List Value → List Value → Bool
  | [], [] => true
  | a :: rest, b :: others => same a b && sameItems rest others
  | _, _ => false

/-- Whether every entry is among the others. -/
def sameEntries : List (Value × Value) → List (Value × Value) → Bool
  | [], _ => true
  | (key, value) :: rest, others =>
      others.any (fun other => same key other.1 && same value other.2) &&
        sameEntries rest others

end

/-- The value of a whole number, unless it is too large for one and too small to
be read as a real. -/
def ofInteger? (number : Int) : Option (Reading Value) :=
  if -(1 <<< 63 : Nat) ≤ number ∧ number < (1 <<< 64 : Nat) then some (.ok (.int number))
  else if -(1 <<< 127 : Nat) ≤ number ∧ number < (1 <<< 128 : Nat) then some (.error .outOfRange)
  else none

/-- A plain scalar without a tag. -/
def ofPlain (text : String) : Reading Value :=
  if text.isEmpty || Scalar.isNull text then .ok .null
  else
    match Scalar.bool? text, (Scalar.integer? text).bind ofInteger? with
    | some value, _ => .ok (.bool value)
    | none, some number => number
    | none, none =>
        match Scalar.real? text with
        | some number =>
            if Scalar.isPaddedNumber text then .ok (.text text) else .ok (.real number)
        | none => .ok (.text text)

/-- A scalar whose tag names one of the core kinds. -/
def ofCore (tag text : String) : Reading Value :=
  if tag = Scalar.coreTag "bool" then
    match Scalar.bool? text with
    | some value => .ok (.bool value)
    | none => .error (.mismatch "a boolean")
  else if tag = Scalar.coreTag "int" then
    match (Scalar.integer? text).bind ofInteger? with
    | some number => number
    | none => .error (.mismatch "an integer")
  else if tag = Scalar.coreTag "float" then
    match Scalar.real? text with
    | some number => .ok (.real number)
    | none => .error (.mismatch "a float")
  else if tag = Scalar.coreTag "null" then
    if Scalar.isNull text then .ok .null else .error (.mismatch "null")
  else .ok (.text text)

/-- The name of a tag of the document's own, which is written after an
exclamation mark. -/
def localTag? (properties : Properties) : Option String := do
  let tag ← properties.tag
  match tag.toList with
  | '!' :: name => some (String.ofList name)
  | _ => none

/-- A tag name without a second exclamation mark. -/
def bareName (name : String) : String :=
  match name.toList with
  | '!' :: c :: rest => String.ofList (c :: rest)
  | _ => name

/-- Put a value under the local tag of its node. -/
def underTag (properties : Properties) (value : Value) : Reading Value :=
  match localTag? properties with
  | none => .ok value
  | some "" => .error (.mismatch "a tag with a name")
  | some name => .ok (.tagged (bareName name) value)

def ofScalar (properties : Properties) (style : Style) (text : String) : Reading Value := do
  match localTag? properties, properties.tag with
  | none, some tag => ofCore tag text
  | _, _ =>
      let value ← if style = .plain then ofPlain text else .ok (.text text)
      underTag properties value

/-- The entries, if no key comes twice. -/
def distinct (entries : List (Value × Value)) : Reading Value :=
  let repeats := (List.range entries.length).any fun index =>
    match entries.drop index with
    | (key, _) :: rest => rest.any fun other => same key other.1
    | [] => false
  if repeats then .error (.repeatedKey "of a mapping") else .ok (.mapping entries)

/-- How many collections may lie in one another. -/
def depthLimit : Nat := 128

/-- How many aliases may be followed for each place of the document. -/
def aliasFactor : Nat := 100

/-- Count an alias that is followed. -/
def follow (document : Document) : Node → StateT Nat (Except Fault) Unit
  | .alias _ => do
      let followed ← get
      if document.size * aliasFactor ≤ followed then throw .tooManyAliases
      else set (followed + 1)
  | _ => return

/-- The value of a node with at most `depth` collections in one another. -/
def ofNode (document : Document) : Nat → Node → StateT Nat (Except Fault) Value
  | 0, node => do
      follow document node
      match document.resolve node with
      | .scalar properties style content => ofScalar properties style content
      | _ => throw .tooDeep
  | depth + 1, node => do
      follow document node
      match document.resolve node with
      | .scalar properties style content => ofScalar properties style content
      | .sequence properties items =>
          let values ← items.mapM (ofNode document depth)
          underTag properties (.list values)
      | .mapping properties entries =>
          let values ← entries.mapM fun entry => do
            let key ← ofNode document depth entry.1
            let value ← ofNode document depth entry.2
            return (key, value)
          let mapping ← distinct values
          underTag properties mapping
      | .alias _ => throw .unexpectedPart

def ofDocument (document : Document) : Reading Value := do
  match document.root with
  | none => return .null
  | some root =>
      let (value, _) ← (ofNode document depthLimit root).run 0
      return value

def ofText (text : String) : Reading Value := do
  let document ← Document.ofText text
  ofDocument document

end Value

/-- Why a value cannot become JSON. -/
inductive KeyFault where
  /-- A key that is null, a collection or tagged. -/
  | notText
  /-- A number that has no text. -/
  | notFinite
  deriving DecidableEq, Repr

def KeyFault.message : KeyFault → String
  | .notText => "key must be a string"
  | .notFinite => "float key must be finite"

namespace Value

/-- The text of a key. -/
def keyText : Value → Except KeyFault String
  | .text value => .ok value
  | .bool value => .ok (if value then "true" else "false")
  | .int value => .ok (toString value)
  | .real value => if value.isFinite then .ok (Json.realText value) else .error .notFinite
  | .null | .list _ | .mapping _ | .tagged .. => .error .notText

mutual

/-- The value as JSON.  Of keys with the same text the last counts, and the
keys of an object are in order. -/
def toJson : Value → Except KeyFault Json
  | .null => .ok .null
  | .bool value => .ok (.bool value)
  | .int value => .ok (.int value)
  | .real value => .ok (if value.isFinite then .real value else .null)
  | .text value => .ok (.text value)
  | .list items => do
      let items ← itemsToJson items
      return .list items
  | .mapping entries => do
      let fields ← entriesToJson entries
      return .object (Std.ExtTreeMap.ofList fields).toList
  | .tagged tag value => do
      let value ← toJson value
      return .object [("!" ++ tag, value)]

def itemsToJson : List Value → Except KeyFault (List Json)
  | [] => .ok []
  | item :: rest => do
      let item ← toJson item
      let rest ← itemsToJson rest
      return item :: rest

def entriesToJson : List (Value × Value) → Except KeyFault (List (String × Json))
  | [] => .ok []
  | (key, value) :: rest => do
      let name ← keyText key
      let value ← toJson value
      let rest ← entriesToJson rest
      return (name, value) :: rest

end

end Value

end TenantGuard.Yaml
