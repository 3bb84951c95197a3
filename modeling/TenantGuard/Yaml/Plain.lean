import TenantGuard.Yaml.Folding

/-!
# Plain scalars

A scalar without quotes ends before a colon that ends a word, before a comment,
before a document marker, and, in brackets, before a bracket or a comma.
Without brackets it also ends before a line that is not deeper than what it
stands in.
-/

namespace TenantGuard.Yaml

structure Surroundings where
  bracketed : Bool
  /-- The least column at which a line can go on with the scalar. -/
  margin : Nat

structure PlainScalar where
  text : String
  /-- Whether lines were skipped behind it. -/
  endsLine : Bool
  cursor : Cursor

namespace PlainScalar

def endsBefore (around : Surroundings) (gap : Gap) (position : Position) (c : Char)
    (rest : List Char) : Bool :=
  let betweenWords := c = '#' || isMarker position (c :: rest) ||
    (!around.bracketed && position.column < around.margin)
  (!gap.isEmpty && betweenWords) || (c = ':' && endsWord rest) ||
    (around.bracketed && isFlowIndicator c)

/-- In brackets a colon may not stand right before another indicator. -/
def isAmbiguous (around : Surroundings) (c : Char) (rest : List Char) : Bool :=
  around.bracketed && c = ':' && match rest with
    | d :: _ => isFlowIndicator d || d = '?'
    | [] => false

/-- Read on after `written`, whose last character comes first, and a gap. -/
def readFrom (around : Surroundings) (written : List Char) (gap : Gap) (position : Position) :
    List Char → Reading PlainScalar
  | [] => .ok ⟨String.ofList written.reverse, gap.broken, position, []⟩
  | c :: rest =>
      if isSpacing c then
        if gap.broken && position.column < around.margin && c = '\t' then
          .error .tabInIndentation
        else
          readFrom around written (gap.space c) (position.next 1) rest
      else if isBreak c then
        readFrom around written (gap.line c) position.nextLine rest
      else if endsBefore around gap position c rest then
        .ok ⟨String.ofList written.reverse, gap.broken, position, c :: rest⟩
      else if isAmbiguous around c rest then
        .error .ambiguousColon
      else
        readFrom around (c :: gap.folded ++ written) {} (position.next 1) rest

def read (around : Surroundings) (cursor : Cursor) : Reading PlainScalar :=
  readFrom around [] {} cursor.position cursor.rest

end PlainScalar

end TenantGuard.Yaml
