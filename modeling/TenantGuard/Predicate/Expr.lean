import TenantGuard.Predicate.Token

/-!
# Expressions and bracket reduction

An expression is an atom or a group of operands under one combinator.  A token
list is reduced in one pass: every open bracket starts a group of items, a
closing bracket reduces its group to one operand of the group around it, and
the end of the list reduces the outermost group.  An error inside a group is
therefore reported when the group ends, and a group that never ends is reported
as such.
-/

namespace TenantGuard.Predicate

inductive Expr where
  | atom (atom : Atom)
  | group (combinator : Combinator) (operands : List Expr)
  deriving Repr

inductive CompileError where
  | unclosed (groups : Nat)
  | unmatchedClosing (position : Nat)
  | missingOperator (position : Nat)
  | danglingOperator (position : Nat)
  | emptyGroup (position : Nat)
  | mixedOperators (position : Nat)
  deriving DecidableEq, Repr

def CompileError.message : CompileError → String
  | .unclosed groups => s!"unbalanced brackets: {groups} group(s) left open"
  | .unmatchedClosing position => s!"unmatched ')' at position {position}"
  | .missingOperator position => s!"missing operator before position {position}"
  | .danglingOperator position => s!"operator without operand at position {position}"
  | .emptyGroup position => s!"empty group ending at position {position}"
  | .mixedOperators position => s!"mixed operators in group at position {position}"

/-- What a group collects before it ends. -/
inductive Item where
  | operand (expr : Expr)
  | operator (combinator : Combinator)

structure Reading where
  operands : List Expr := []
  combinator : Option Combinator := none
  /-- Whether an operand has to come next. -/
  awaitsOperand : Bool := true

namespace Reading

/-- Read one more item.  Operands and combinators have to alternate, and the
combinators have to agree. -/
def read (reading : Reading) : Nat × Item → Except CompileError Reading
  | (position, .operand expr) =>
      if reading.awaitsOperand then
        .ok { reading with operands := reading.operands ++ [expr], awaitsOperand := false }
      else
        .error (.missingOperator position)
  | (position, .operator combinator) =>
      if reading.awaitsOperand then
        .error (.danglingOperator position)
      else if reading.combinator.all (· = combinator) then
        .ok { reading with combinator := some combinator, awaitsOperand := true }
      else
        .error (.mixedOperators position)

/-- The operand that a group read to its end stands for.  A lone operand stands
for itself, whatever brackets it has. -/
def finish (reading : Reading) (position : Nat) : Except CompileError Expr :=
  match reading.operands with
  | [] => .error (.emptyGroup position)
  | first :: _ =>
      if reading.awaitsOperand then
        .error (.danglingOperator position)
      else
        match reading.combinator with
        | none => .ok first
        | some combinator => .ok (.group combinator reading.operands)

end Reading

def reduce (items : List (Nat × Item)) (position : Nat) : Except CompileError Expr := do
  (← items.foldlM Reading.read {}).finish position

/-- Reduce from `position` on.  `group` holds the items of the innermost open
group, latest first, and `enclosing` the groups around it, inside out.  An
operand made of a group stands at the position of the closing bracket. -/
def compileFrom (position : Nat) (group : List (Nat × Item))
    (enclosing : List (List (Nat × Item))) : List Token → Except CompileError Expr
  | [] =>
      match enclosing with
      | [] => reduce group.reverse position
      | _ => .error (.unclosed enclosing.length)
  | .opening :: rest => compileFrom (position + 1) [] (group :: enclosing) rest
  | .closing :: rest =>
      match enclosing with
      | [] => .error (.unmatchedClosing position)
      | outer :: enclosing => do
          let expr ← reduce group.reverse position
          compileFrom (position + 1) ((position, .operand expr) :: outer) enclosing rest
  | .operator combinator :: rest =>
      compileFrom (position + 1) ((position, .operator combinator) :: group) enclosing rest
  | .atom atom :: rest =>
      compileFrom (position + 1) ((position, .operand (.atom atom)) :: group) enclosing rest

def compile (tokens : List Token) : Except CompileError Expr :=
  compileFrom 0 [] [] tokens

end TenantGuard.Predicate
