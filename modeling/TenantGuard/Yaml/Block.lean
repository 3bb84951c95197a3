import TenantGuard.Yaml.Character

/-!
# Block scalars

A block scalar holds the following lines that are deeper than what it stands
in.  Its header says whether lines are folded, what happens to the line breaks
at its end, and, if it does not follow from the first line, how deep its lines
are.
-/

namespace TenantGuard.Yaml

/-- What happens to the line breaks at the end of a block scalar: `clip` keeps the
first, `strip` none of them and `keep` all. -/
inductive Chomping where
  | strip
  | clip
  | keep
  deriving DecidableEq, Repr

structure BlockHeader where
  chomping : Chomping := .clip
  /-- How much deeper than its surroundings the scalar is. -/
  depth : Option Nat := none

namespace BlockHeader

def chomping? : Char → Option Chomping
  | '+' => some .keep
  | '-' => some .strip
  | _ => none

def readDepth : List Char → Reading (Option Nat × List Char)
  | c :: rest =>
      if c = '0' then .error .blockHeader
      else if c.isDigit then .ok (some (c.toNat - '0'.toNat), rest)
      else .ok (none, c :: rest)
  | [] => .ok (none, [])

def readChomping : List Char → Chomping × List Char
  | [] => (.clip, [])
  | c :: rest =>
      match chomping? c with
      | some chomping => (chomping, rest)
      | none => (.clip, c :: rest)

/-- The sign and the digit stand in either order. -/
def readSigns (text : List Char) : Reading (BlockHeader × List Char) := do
  match text.head?.bind chomping? with
  | some chomping =>
      let (depth, rest) ← readDepth text.tail
      return (⟨chomping, depth⟩, rest)
  | none =>
      let (depth, rest) ← readDepth text
      match depth with
      | none => return ({}, rest)
      | some _ =>
          let (chomping, rest) := readChomping rest
          return (⟨chomping, depth⟩, rest)

end BlockHeader

def skipLineEnd (text : List Char) : List Char :=
  match text.dropWhile isSpacing with
  | '#' :: rest => rest.dropWhile fun c => !isBreak c
  | rest => rest

/-- A block scalar as far as it has been read.  The break of the last line and those
of the empty lines after it wait until the next line shows whether they fold. -/
structure BlockScalar where
  folded : Bool
  chomping : Chomping
  margin : Nat
  indent : Option Nat
  /-- The deepest column that was reached while the depth is unknown. -/
  deepest : Nat := 0
  inLine : Bool := false
  /-- Whether the last line begins with spacing. -/
  spaced : Bool := false
  written : List Char := []
  lineBreak : List Char := []
  emptyLines : List Char := []

namespace BlockScalar

def text (scalar : BlockScalar) : String :=
  let tail := match scalar.chomping with
    | .strip => []
    | .clip => scalar.lineBreak
    | .keep => scalar.emptyLines ++ scalar.lineBreak
  -- all parts are kept with the last character first
  String.ofList (tail ++ scalar.written).reverse

/-- The column of the lines, which the first line decides unless it is known. -/
def column (scalar : BlockScalar) : Nat :=
  scalar.indent.getD (max scalar.deepest (max scalar.margin 1))

def beginLine (scalar : BlockScalar) (c : Char) : BlockScalar :=
  let spaced := isSpacing c
  -- between two lines that begin with words a break folds to a space, or to
  -- nothing before empty lines
  let joint :=
    if scalar.folded && scalar.lineBreak = ['\n'] && !scalar.spaced && !spaced then
      if scalar.emptyLines.isEmpty then [' '] else []
    else scalar.lineBreak
  { scalar with
    indent := some scalar.column
    inLine := true
    spaced := spaced
    written := c :: scalar.emptyLines ++ joint ++ scalar.written
    lineBreak := []
    emptyLines := [] }

def readFrom (scalar : BlockScalar) (position : Position) :
    List Char → Reading (String × Cursor)
  | [] => .ok (scalar.text, ⟨position, []⟩)
  | c :: rest =>
      if scalar.inLine then
        if isBreak c then
          readFrom { scalar with inLine := false, lineBreak := [c] } position.nextLine rest
        else
          readFrom { scalar with written := c :: scalar.written } (position.next 1) rest
      -- an empty line does not have to reach the depth of the others
      else if isBreak c then
        readFrom { scalar with emptyLines := c :: scalar.emptyLines } position.nextLine rest
      else
        let shallow := match scalar.indent with
          | none => true
          | some column => position.column < column
        if shallow && c = ' ' then
          let deepest := max scalar.deepest (position.column + 1)
          readFrom { scalar with deepest := deepest } (position.next 1) rest
        else if shallow && c = '\t' then
          .error .tabInIndentation
        else if position.column = scalar.column then
          readFrom (scalar.beginLine c) (position.next 1) rest
        else
          .ok (scalar.text, ⟨position, c :: rest⟩)

/-- Read what follows the indicator. -/
def read (folded : Bool) (margin : Nat) (cursor : Cursor) : Reading (String × Cursor) := do
  let (header, rest) ← BlockHeader.readSigns cursor.rest
  let start := { folded, chomping := header.chomping, margin,
                 indent := header.depth.map (margin - 1 + ·) }
  match skipLineEnd rest with
  | [] => return (text start, cursor.moveTo [])
  | c :: body =>
      if isBreak c then readFrom start cursor.position.nextLine body
      else .error .blockHeader

end BlockScalar

end TenantGuard.Yaml
