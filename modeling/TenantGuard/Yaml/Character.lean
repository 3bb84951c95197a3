import TenantGuard.Yaml.Fault

/-!
# Characters and positions

A document is read with its line breaks in one form: a carriage return, alone
or before a line feed, and the next-line character count as a line feed.  The
line and paragraph separators also break lines but stay what they are.
-/

namespace TenantGuard.Yaml

/-- Whether a document may hold a character: no control characters but tab and
line breaks, and no code that stands for no character. -/
def isAdmitted (c : Char) : Bool :=
  let code := c.toNat
  code = 9 || code = 10 || code = 13 || (0x20 ≤ code && code ≤ 0x7e) || code = 0x85 ||
    (0xa0 ≤ code && code ≤ 0xfffd) || 0x10000 ≤ code

def normalized : List Char → List Char
  | [] => []
  | '\r' :: '\n' :: rest => '\n' :: normalized rest
  | c :: rest => (if c = '\r' || c.toNat = 0x85 then '\n' else c) :: normalized rest

def isBreak (c : Char) : Bool :=
  c = '\n' || c.toNat = 0x2028 || c.toNat = 0x2029

def isSpacing (c : Char) : Bool :=
  c = ' ' || c = '\t'

/-- Whether a word cannot go on with this text: it begins with spacing or a line
break, or there is no more of it. -/
def endsWord : List Char → Bool
  | [] => true
  | c :: _ => isSpacing c || isBreak c

def hexDigit? (c : Char) : Option Nat :=
  if c.isDigit then some (c.toNat - '0'.toNat)
  else if 'a' ≤ c && c ≤ 'f' then some (c.toNat - 'a'.toNat + 10)
  else if 'A' ≤ c && c ≤ 'F' then some (c.toNat - 'A'.toNat + 10)
  else none

def isNameLetter (c : Char) : Bool :=
  c.isAlphanum || c = '_' || c = '-'

def isFlowIndicator (c : Char) : Bool :=
  c = ',' || c = '[' || c = ']' || c = '{' || c = '}'

def byteOrderMark : Char :=
  '\ufeff'

/-- A place in a document, counted from zero. -/
structure Position where
  line : Nat := 0
  column : Nat := 0

namespace Position

def next (position : Position) (count : Nat) : Position :=
  { position with column := position.column + count }

def nextLine (position : Position) : Position :=
  { line := position.line + 1 }

end Position

structure Cursor where
  position : Position := {}
  rest : List Char

namespace Cursor

/-- The cursor after a part of the same line. -/
def moveTo (cursor : Cursor) (rest : List Char) : Cursor :=
  ⟨cursor.position.next (cursor.rest.length - rest.length), rest⟩

end Cursor

/-- A marker of three equal characters that ends or begins a document.  It
stands at the beginning of a line and ends there as a word. -/
def isMarker (position : Position) (text : List Char) : Bool :=
  match text with
  | a :: b :: c :: rest =>
      position.column = 0 && (a = '-' || a = '.') && a = b && b = c && endsWord rest
  | _ => false

end TenantGuard.Yaml
