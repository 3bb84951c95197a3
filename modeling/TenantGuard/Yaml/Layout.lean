import TenantGuard.Yaml.Block
import TenantGuard.Yaml.Plain
import TenantGuard.Yaml.Tag

/-!
# From characters to parts

Reading goes once through the text.  Whatever may turn out to be a key leaves
an empty place in front of it, which is filled when a colon follows on the same
line.  Outside of brackets a part that stands left of an open collection ends
that collection.
-/

namespace TenantGuard.Yaml

/-- Something that is a key if a colon follows it. -/
structure PendingKey where
  /-- Where among the parts the key would be announced. -/
  place : Nat
  position : Position
  required : Bool

namespace PendingKey

/-- How many columns a key may take before its colon. -/
def limit : Nat := 1024

def isStale (key : PendingKey) (position : Position) : Bool :=
  key.position.line < position.line || key.position.column + limit < position.column

/-- A pending key that is given up, which is a fault if it is required. -/
def discard : Option PendingKey → Reading Unit
  | some key => if key.required then .error .missingColon else .ok ()
  | none => .ok ()

def refresh (position : Position) : Option PendingKey → Reading (Option PendingKey)
  | some key =>
      if key.isStale position then do
        discard (some key)
        return none
      else .ok (some key)
  | none => .ok none

end PendingKey

/-- A document as far as it has been read. -/
structure Layout where
  cursor : Cursor
  /-- The parts, and the places that keys may still fill. -/
  parts : Array (List Token) := #[]
  /-- The columns of the open collections without brackets, innermost first. -/
  columns : List Nat := []
  key : Option PendingKey := none
  /-- The pending keys at the outer depths of brackets, innermost first. -/
  outerKeys : List (Option PendingKey) := []
  keyAllowed : Bool := true

namespace Layout

def bracketed (layout : Layout) : Bool :=
  !layout.outerKeys.isEmpty

def around (layout : Layout) : Surroundings where
  bracketed := layout.bracketed
  margin := (layout.columns.head?.map (· + 1)).getD 0

def emit (token : Token) (layout : Layout) : Layout :=
  { layout with parts := layout.parts.push [token] }

def emitOver (count : Nat) (token : Token) (layout : Layout) : Layout :=
  { layout.emit token with cursor := layout.cursor.moveTo (layout.cursor.rest.drop count) }

def allowKey (allowed : Bool) (layout : Layout) : Layout :=
  { layout with keyAllowed := allowed }

def discardKey (layout : Layout) : Reading Layout := do
  PendingKey.discard layout.key
  return { layout with key := none }

def refreshKeys (layout : Layout) : Reading Layout := do
  let position := layout.cursor.position
  let key ← PendingKey.refresh position layout.key
  let outerKeys ← layout.outerKeys.mapM (PendingKey.refresh position)
  return { layout with key, outerKeys }

def noteKey (layout : Layout) : Reading Layout := do
  if layout.keyAllowed then
    let layout ← layout.discardKey
    let position := layout.cursor.position
    let required := !layout.bracketed && layout.columns.head? = some position.column
    let key := PendingKey.mk layout.parts.size position required
    return { layout with key := some key, parts := layout.parts.push [] }
  else return layout

/-- End the collections whose column lies behind. -/
def closeWhile (behind : Nat → Bool) (layout : Layout) : Layout :=
  if layout.bracketed then layout
  else
    let ends := (layout.columns.takeWhile behind).map fun _ => [Token.blockEnd]
    { layout with
      parts := layout.parts ++ ends
      columns := layout.columns.dropWhile behind }

def closeAll (layout : Layout) : Layout :=
  layout.closeWhile fun _ => true

def deepens (layout : Layout) (column : Nat) : Bool :=
  !layout.bracketed && layout.columns.head?.all (· < column)

/-- Begin a collection here unless one is open at this column. -/
def openBlock (token : Token) (layout : Layout) : Layout :=
  let column := layout.cursor.position.column
  if layout.deepens column then { layout.emit token with columns := column :: layout.columns }
  else layout

def skipFrom (bracketed : Bool) (inComment keyAllowed : Bool) (position : Position) :
    List Char → Bool × Cursor
  | [] => (keyAllowed, ⟨position, []⟩)
  | c :: rest =>
      -- after a line break a key may begin, but not among brackets
      if isBreak c then
        skipFrom bracketed false (keyAllowed || !bracketed) position.nextLine rest
      else if inComment || c = '#' then
        skipFrom bracketed true keyAllowed (position.next 1) rest
      -- where a key may begin, tabs do not count as spacing
      else if c = ' ' || (c = '\t' && (bracketed || !keyAllowed)) ||
          (c = byteOrderMark && position.column = 0) then
        skipFrom bracketed false keyAllowed (position.next 1) rest
      else (keyAllowed, ⟨position, c :: rest⟩)

def skip (layout : Layout) : Layout :=
  let (keyAllowed, cursor) :=
    skipFrom layout.bracketed false layout.keyAllowed layout.cursor.position layout.cursor.rest
  { layout with keyAllowed, cursor }

def openBracket (token : Token) (layout : Layout) : Reading Layout := do
  let layout ← layout.noteKey
  return { layout.emitOver 1 token with
    key := none
    outerKeys := layout.key :: layout.outerKeys
    keyAllowed := true }

def closeBracket (token : Token) (layout : Layout) : Reading Layout := do
  let layout ← layout.discardKey
  return { layout.emitOver 1 token with
    key := layout.outerKeys.head?.join
    outerKeys := layout.outerKeys.tail
    keyAllowed := false }

def comma (layout : Layout) : Reading Layout := do
  let layout ← layout.discardKey
  return layout.emitOver 1 .comma |>.allowKey true

/-- A dash or a question mark.  Outside of brackets it stands where a key could,
and may begin a collection. -/
def blockIndicator (c : Char) (collection token : Token) (keyAllowed : Bool)
    (layout : Layout) : Reading Layout := do
  if !layout.bracketed && !layout.keyAllowed then .error (.misplacedIndicator c)
  else
    let layout ← (layout.openBlock collection).discardKey
    return layout.emitOver 1 token |>.allowKey keyAllowed

/-- Announce a pending key where it begins. -/
def announceKey (key : PendingKey) (layout : Layout) : Layout :=
  let column := key.position.column
  let deepens := layout.deepens column
  let announced := if deepens then [Token.blockMapping, .key] else [.key]
  { layout with
    parts := layout.parts.setIfInBounds key.place announced
    columns := if deepens then column :: layout.columns else layout.columns
    key := none
    keyAllowed := false }

/-- A colon, which makes a key of what may be one. -/
def colon (layout : Layout) : Reading Layout := do
  match layout.key with
  | some key => return (layout.announceKey key).emitOver 1 .value
  | none =>
      if layout.bracketed then return layout.emitOver 1 .value |>.allowKey false
      else if layout.keyAllowed then
        return (layout.openBlock .blockMapping).emitOver 1 .value
      else .error (.misplacedIndicator ':')

/-- The name of an anchor or an alias. -/
def reference (token : String → Token) (layout : Layout) : Reading Layout := do
  let layout ← layout.noteKey
  let text := layout.cursor.rest.tail
  let name := text.takeWhile isNameLetter
  let rest := text.dropWhile isNameLetter
  let ends := endsWord rest || rest.head?.any "?:,]\x7d%@`".toList.contains
  if name.isEmpty || !ends then .error .malformedName
  else
    let layout := layout.emit (token (String.ofList name)) |>.allowKey false
    return { layout with cursor := layout.cursor.moveTo rest }

def tag (layout : Layout) : Reading Layout := do
  let layout ← layout.noteKey
  let (name, cursor) ← TagName.read layout.bracketed layout.cursor
  return { layout.emit (.tag name) with cursor, keyAllowed := false }

/-- A block scalar, which is never a key. -/
def blockScalar (style : Style) (layout : Layout) : Reading Layout := do
  let layout ← layout.discardKey
  let content := layout.cursor.moveTo layout.cursor.rest.tail
  let (text, cursor) ← BlockScalar.read (style = .folded) layout.around.margin content
  return { layout.emit (.scalar style text) with cursor, keyAllowed := true }

def quotedScalar (double : Bool) (layout : Layout) : Reading Layout := do
  let layout ← layout.noteKey
  let content := layout.cursor.moveTo layout.cursor.rest.tail
  let (text, cursor) ← QuotedScalar.read double content
  return { layout.emit (.scalar .quoted text) with cursor, keyAllowed := false }

/-- A scalar without quotes.  If it ends with its line, the next line may begin
with a key. -/
def plainScalar (layout : Layout) : Reading Layout := do
  let layout ← layout.noteKey
  let scalar ← PlainScalar.read layout.around layout.cursor
  return { layout.emit (.scalar .plain scalar.text) with
    cursor := scalar.cursor
    keyAllowed := scalar.endsLine }

/-- A directive, before which everything ends. -/
def directive (layout : Layout) : Reading Layout := do
  let layout ← layout.closeAll.discardKey
  let (token, cursor) ← Directive.read (layout.cursor.moveTo layout.cursor.rest.tail)
  return { layout.emit token with cursor, keyAllowed := false }

def marker (token : Token) (layout : Layout) : Reading Layout := do
  let layout ← layout.closeAll.discardKey
  return layout.emitOver 3 token |>.allowKey false

/-- Characters that mean something at the beginning of a part, whatever comes
behind them. -/
def isIndicator (c : Char) : Bool :=
  isFlowIndicator c || "#&*!|>'\"%@`".toList.contains c

def beginsPlain (bracketed : Bool) (c : Char) (rest : List Char) : Bool :=
  if c = '-' then !(rest.head?.any isSpacing)
  else if c = '?' || c = ':' then !bracketed && !endsWord rest
  else !isSpacing c && !isIndicator c

def part (c : Char) (rest : List Char) (layout : Layout) : Reading Layout :=
  let position := layout.cursor.position
  let bracketed := layout.bracketed
  if position.column = 0 && c = '%' then layout.directive
  else if isMarker position (c :: rest) then
    layout.marker (if c = '-' then .documentStart else .documentEnd)
  else if c = '[' then layout.openBracket .openSequence
  else if c = '{' then layout.openBracket .openMapping
  else if c = ']' then layout.closeBracket .closeSequence
  else if c = '}' then layout.closeBracket .closeMapping
  else if c = ',' then layout.comma
  else if c = '-' && endsWord rest then layout.blockIndicator c .blockSequence .entry true
  else if c = '?' && (bracketed || endsWord rest) then
    layout.blockIndicator c .blockMapping .key (!bracketed)
  else if c = ':' && (bracketed || endsWord rest) then layout.colon
  else if c = '*' then layout.reference .alias
  else if c = '&' then layout.reference .anchor
  else if c = '!' then layout.tag
  else if c = '|' && !bracketed then layout.blockScalar .literal
  else if c = '>' && !bracketed then layout.blockScalar .folded
  else if c = '\'' then layout.quotedScalar false
  else if c = '"' then layout.quotedScalar true
  else if beginsPlain bracketed c rest then layout.plainScalar
  else .error (.unexpectedCharacter c)

def readAll (layout : Layout) : Reading (List Token) := do
  let ahead ← layout.skip.refreshKeys
  let ahead := ahead.closeWhile (ahead.cursor.position.column < ·)
  match ahead.cursor.rest with
  | [] =>
      let done ← ahead.closeAll.discardKey
      return done.parts.toList.flatten
  | c :: rest =>
      let next ← ahead.part c rest
      -- no part is empty
      if next.cursor.rest.length < layout.cursor.rest.length then
        readAll next
      else .error (.unexpectedCharacter c)
termination_by layout.cursor.rest.length

end Layout

def Token.ofText (text : String) : Reading (List Token) := do
  match text.toList.find? fun c => !isAdmitted c with
  | some c => .error (.controlCharacter c.toNat)
  | none =>
      let layout : Layout := { cursor := { rest := normalized text.toList } }
      layout.readAll

end TenantGuard.Yaml
