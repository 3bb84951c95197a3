/-!
# What can be wrong with a document

A document is refused for the way it is written, for the way its parts are
nested, or because its values do not fit what is read from them.
-/

namespace TenantGuard.Yaml

inductive Fault where
  -- how the document is written
  | controlCharacter (code : Nat)
  | tabInIndentation
  | unexpectedCharacter (c : Char)
  | misplacedIndicator (c : Char)
  | missingColon
  /-- A plain scalar in brackets with a colon right before an indicator. -/
  | ambiguousColon
  | unclosedQuote
  | markerInQuotes
  | unknownEscape
  | blockHeader
  | malformedName
  | malformedTag
  | malformedDirective
  | repeatedDirective
  /-- A version of the language other than 1.1 and 1.2. -/
  | unknownVersion
  -- how its parts are nested
  | unknownHandle (handle : String)
  | unknownAnchor (name : String)
  | unexpectedPart
  | severalDocuments
  -- what is read from it
  | mismatch (expected : String)
  | repeatedKey (name : String)
  | missingField (name : String)
  | outOfRange
  | tooDeep
  /-- Aliases that multiply the size of the document. -/
  | tooManyAliases
  deriving DecidableEq, Repr

namespace Fault

def detail : Fault → String
  | .controlCharacter code => s!"control character {code} is not allowed"
  | .tabInIndentation => "found a tab where an indentation space is expected"
  | .unexpectedCharacter c => s!"found character {c} that starts nothing"
  | .misplacedIndicator c => s!"indicator {c} is not allowed in this context"
  | .missingColon => "could not find the colon of a key"
  | .ambiguousColon => "found an unexpected colon in a plain scalar"
  | .unclosedQuote => "found the end of the document in a quoted scalar"
  | .markerInQuotes => "found a document marker in a quoted scalar"
  | .unknownEscape => "found an unknown escape in a quoted scalar"
  | .blockHeader => "could not read the header of a block scalar"
  | .malformedName => "could not read the name of an anchor or alias"
  | .malformedTag => "could not read a tag"
  | .malformedDirective => "could not read a directive"
  | .repeatedDirective => "found a directive twice"
  | .unknownVersion => "found an incompatible version"
  | .unknownHandle handle => s!"found undefined tag handle {handle}"
  | .unknownAnchor name => s!"unknown anchor {name}"
  | .unexpectedPart => "found a part that does not belong here"
  | .severalDocuments => "found more than one document"
  | .mismatch expected => s!"expected {expected}"
  | .repeatedKey name => s!"key {name} is repeated"
  | .missingField name => s!"field {name} is missing"
  | .outOfRange => "number out of range"
  | .tooDeep => "recursion limit exceeded"
  | .tooManyAliases => "repetition limit exceeded"

def message (fault : Fault) : String :=
  s!"YAML parse error: {fault.detail}"

end Fault

abbrev Reading (α : Type) := Except Fault α

end TenantGuard.Yaml
