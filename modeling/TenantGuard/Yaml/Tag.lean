import TenantGuard.Yaml.Quoted
import TenantGuard.Yaml.Token

/-!
# Tags and directives

A tag is a handle and a suffix, both written after exclamation marks, or a
whole tag in angle brackets.  Directives stand before a document; they state
the version of the language or what a handle is short for.
-/

namespace TenantGuard.Yaml

/-- The characters of tags, besides escapes.  In angle brackets there are
three more. -/
def isTagLetter (bracketed : Bool) (c : Char) : Bool :=
  isNameLetter c || ";/?:@&=+$.!~*'()".toList.contains c ||
    (bracketed && (c = ',' || c = '[' || c = ']'))

/-- Octets of one character that are yet to come, and the code so far. -/
structure Octets where
  missing : Nat := 0
  code : Nat := 0

namespace Octets

/-- Take one more octet of the character.  The first one tells how many there
are. -/
def push? (octets : Octets) (octet : Nat) : Option Octets :=
  if octets.missing = 0 then
    if octet < 0x80 then some ⟨0, octet⟩
    else if octet / 0x20 = 6 then some ⟨1, octet % 0x20⟩
    else if octet / 0x10 = 14 then some ⟨2, octet % 0x10⟩
    else if octet / 0x08 = 30 then some ⟨3, octet % 0x08⟩
    else none
  else if octet / 0x40 = 2 then some ⟨octets.missing - 1, octets.code * 0x40 + octet % 0x40⟩
  else none

end Octets

namespace TagName

/-- The letters of a tag, and what follows them.  A percent sign and two
hexadecimal digits write one octet of a character. -/
def readLetters (bracketed : Bool) (octets : Octets) (written : List Char) :
    List Char → Reading (List Char × List Char)
  | '%' :: high :: low :: rest =>
      match QuotedScalar.coded? 2 [high, low] |>.bind fun c => octets.push? c.toNat with
      | none => .error .malformedTag
      | some octets =>
          let written := if octets.missing = 0 then Char.ofNat octets.code :: written else written
          readLetters bracketed octets written rest
  | c :: rest =>
      if octets.missing ≠ 0 || c = '%' then .error .malformedTag
      else if isTagLetter bracketed c then readLetters bracketed octets (c :: written) rest
      else .ok (written.reverse, c :: rest)
  | [] => if octets.missing ≠ 0 then .error .malformedTag else .ok (written.reverse, [])

/-- An exclamation mark, letters, and perhaps a second exclamation mark. -/
def readHandle : List Char → Reading (List Char × List Char)
  | '!' :: text =>
      let letters := text.takeWhile isNameLetter
      match text.dropWhile isNameLetter with
      | '!' :: rest => .ok ('!' :: letters ++ ['!'], rest)
      | rest => .ok ('!' :: letters, rest)
  | _ => .error .malformedTag

def readStem (bracketed : Bool) (text : List Char) : Reading (List Char × List Char) := do
  let (letters, rest) ← readLetters bracketed {} [] text
  if letters.isEmpty then .error .malformedTag else return (letters, rest)

def isNamedHandle (handle : List Char) : Bool :=
  handle.length > 1 && handle.getLast? = some '!'

def readName (text : List Char) : Reading (TagName × List Char) := do
  match text with
  | '!' :: '<' :: text =>
      let (letters, rest) ← readStem true text
      match rest with
      | '>' :: rest => return (⟨"", String.ofList letters⟩, rest)
      | _ => .error .malformedTag
  | _ =>
      let (handle, rest) ← readHandle text
      if isNamedHandle handle then
        let (suffix, rest) ← readStem false rest
        return (⟨String.ofList handle, String.ofList suffix⟩, rest)
      else
        let (more, rest) ← readLetters false {} [] rest
        match handle.tail ++ more with
        | [] => return (⟨"", "!"⟩, rest)
        | suffix => return (⟨"!", String.ofList suffix⟩, rest)

/-- Read a tag, which ends as a word or, in brackets, before a comma. -/
def read (bracketed : Bool) (cursor : Cursor) : Reading (TagName × Cursor) := do
  let (name, rest) ← readName cursor.rest
  if endsWord rest || (bracketed && rest.head? = some ',') then
    return (name, cursor.moveTo rest)
  else .error .malformedTag

end TagName

namespace Directive

/-- At most nine digits. -/
def readNumber (text : List Char) : Reading (Nat × List Char) :=
  let digits := text.takeWhile Char.isDigit
  if digits.isEmpty || digits.length > 9 then .error .malformedDirective
  else
    let number := digits.foldl (fun number c => 10 * number + (c.toNat - '0'.toNat)) 0
    .ok (number, text.dropWhile Char.isDigit)

def readVersion (text : List Char) : Reading (Token × List Char) := do
  let (major, rest) ← readNumber (text.dropWhile isSpacing)
  match rest with
  | '.' :: rest =>
      let (minor, rest) ← readNumber rest
      return (.version major minor, rest)
  | _ => .error .malformedDirective

def readShorthand (text : List Char) : Reading (Token × List Char) := do
  let (name, rest) ← TagName.readHandle (text.dropWhile isSpacing)
  if name ≠ ['!'] && !TagName.isNamedHandle name then .error .malformedDirective
  else if !(rest.head?.any isSpacing) then .error .malformedDirective
  else
    let (stem, rest) ← TagName.readStem true (rest.dropWhile isSpacing)
    if endsWord rest then return (.handle (String.ofList name) (String.ofList stem), rest)
    else .error .malformedDirective

/-- Read a directive after its percent sign, and the rest of its line. -/
def read (cursor : Cursor) : Reading (Token × Cursor) := do
  let name := cursor.rest.takeWhile isNameLetter
  let rest := cursor.rest.dropWhile isNameLetter
  if !endsWord rest then .error .malformedDirective
  else
    let (token, rest) ←
      if name = "YAML".toList then readVersion rest
      else if name = "TAG".toList then readShorthand rest
      else .error .malformedDirective
    match rest.dropWhile isSpacing with
    | [] => return (token, ⟨cursor.position, []⟩)
    | '#' :: rest => return (token, ⟨cursor.position, rest.dropWhile fun c => !isBreak c⟩)
    | c :: rest =>
        if isBreak c then return (token, ⟨cursor.position.nextLine, rest⟩)
        else .error .malformedDirective

end Directive

end TenantGuard.Yaml
