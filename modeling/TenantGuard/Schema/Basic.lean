import TenantGuard.Json.Basic

/-!
# Schemas of JSON values

A schema says of what kind a value is and what its parts are.  A value of the
wrong kind is one fault; where the kind is right, every part is looked at and
all faults are reported with the place where they are.
-/

namespace TenantGuard

/-- The form that a text has to have, with its usual notation. -/
structure TextForm where
  pattern : String
  accepts : String → Bool

inductive Schema where
  | boolean
  | integer (minimum maximum : Option Int)
  | text (minLength : Nat) (form : Option TextForm)
  /-- Known fields, some of which have to be there, and no others. -/
  | record (fields : List (String × Schema)) (required : List String)
  /-- Fields of any name. -/
  | dictionary (values : Schema)

inductive SchemaFault where
  | kind (value : Json) (expected : String)
  | belowMinimum (value : Json) (minimum : Int)
  | aboveMaximum (value : Json) (maximum : Int)
  | tooShort (value : Json) (minLength : Nat)
  | otherForm (value : Json) (pattern : String)
  | missingField (name : String)
  | unknownFields (names : List String)

namespace SchemaFault

def nameList (names : List String) : String :=
  ", ".intercalate (names.map fun name => s!"'{name}'")

def message : SchemaFault → String
  | .kind value expected =>
      let written := value.compact
      s!"{written} is not of type \"{expected}\""
  | .belowMinimum value minimum =>
      let written := value.compact
      s!"{written} is less than the minimum of {minimum}"
  | .aboveMaximum value maximum =>
      let written := value.compact
      s!"{written} is greater than the maximum of {maximum}"
  | .tooShort value minLength =>
      let written := value.compact
      let noun := if minLength = 1 then "character" else "characters"
      s!"{written} is shorter than {minLength} {noun}"
  | .otherForm value pattern =>
      let written := value.compact
      s!"{written} does not match \"{pattern}\""
  | .missingField name =>
      let written := Json.quoted name
      s!"{written} is a required property"
  | .unknownFields names =>
      let list := nameList names
      let verb := if names.length = 1 then "was" else "were"
      s!"Additional properties are not allowed ({list} {verb} unexpected)"

end SchemaFault

structure SchemaFinding where
  /-- The names on the way to the value, outermost first. -/
  path : List String
  fault : SchemaFault

namespace SchemaFinding

def step (name : String) : String :=
  let escaped := name.toList.map fun c =>
    if c = '~' then "~0" else if c = '/' then "~1" else c.toString
  "/" ++ String.join escaped

/-- The location of the value, or a word for the whole. -/
def location (finding : SchemaFinding) : String :=
  if finding.path.isEmpty then "(root)" else String.join (finding.path.map step)

end SchemaFinding

namespace Schema

def isBelow (bound : Int) : Json → Bool
  | .int value => value < bound
  | .real value => value < Float.ofInt bound
  | _ => false

def isAbove (bound : Int) : Json → Bool
  | .int value => bound < value
  | .real value => Float.ofInt bound < value
  | _ => false

/-- Whether a value is a number without a fraction. -/
def isInteger : Json → Bool
  | .int _ => true
  | .real value => value.floor == value
  | _ => false

/-- What is wrong with a value that should be an integer between two bounds.
The bounds count for every number. -/
def integerFaults (minimum maximum : Option Int) (value : Json) : List SchemaFault :=
  (if isInteger value then [] else [.kind value "integer"]) ++
    (minimum.toList.filter (isBelow · value)).map (.belowMinimum value) ++
    (maximum.toList.filter (isAbove · value)).map (.aboveMaximum value)

def textFaults (minLength : Nat) (form : Option TextForm) : Json → List SchemaFault
  | .text content =>
      (if content.length < minLength then [.tooShort (.text content) minLength] else []) ++
        (form.toList.filter fun form => !form.accepts content).map fun form =>
          .otherForm (.text content) form.pattern
  | value => [.kind value "string"]

/-- The required fields that are not there, and the fields that are not known. -/
def fieldFaults (known required : List String) (fields : List (String × Json)) :
    List SchemaFault :=
  let names := fields.map Prod.fst
  let missing := required.filter fun name => !names.contains name
  let unknown := names.filter fun name => !known.contains name
  missing.map .missingField ++ if unknown.isEmpty then [] else [.unknownFields unknown]

mutual

/-- Everything that is wrong with the value at a path. -/
def findings (path : List String) : Schema → Json → List SchemaFinding
  | .boolean, .bool _ => []
  | .boolean, value => [⟨path, .kind value "boolean"⟩]
  | .integer minimum maximum, value =>
      (integerFaults minimum maximum value).map (SchemaFinding.mk path)
  | .text minLength form, value => (textFaults minLength form value).map (SchemaFinding.mk path)
  | .record known required, .object fields =>
      fieldFindings path fields known ++
        (fieldFaults (known.map Prod.fst) required fields).map (SchemaFinding.mk path)
  | .dictionary values, .object fields =>
      fields.flatMap fun field => findings (path ++ [field.1]) values field.2
  | .record _ _, value => [⟨path, .kind value "object"⟩]
  | .dictionary _, value => [⟨path, .kind value "object"⟩]

def fieldFindings (path : List String) (fields : List (String × Json)) :
    List (String × Schema) → List SchemaFinding
  | [] => []
  | (name, schema) :: rest =>
      (match fields.lookup name with
        | some value => findings (path ++ [name]) schema value
        | none => []) ++ fieldFindings path fields rest

end

end Schema

end TenantGuard
