import TenantGuard.Predicate.Token

/-!
# The structure of a token list

Reading a predicate's words and checking the rules that can be seen without
building its tree: brackets never close before they open, two tokens of one
kind never stand side by side, no combinator stands at either end, and the
combinators that stand directly in one bracket group are all the same.  Each
check reports the first position that breaks its rule.  Whether every bracket
is closed in the end is left to the reduction to an expression.
-/

namespace TenantGuard.Predicate

inductive GrammarError where
  /-- A word outside the vocabulary, with all the words of the text. -/
  | unknownWord (word : String) (words : List String)
  | unmatchedClosing (position : Nat)
  | adjacentKind (kind : TokenKind) (position : Nat)
  | operatorAtEdge (combinator : Combinator) (position : Nat)
  /-- `depth` counts the brackets open at `position`. -/
  | mixedOperators (expected found : Combinator) (depth position : Nat)
  deriving DecidableEq, Repr

def GrammarError.message : GrammarError → String
  | .unknownWord word words =>
      let all := ", ".intercalate words
      s!"unknown token '{word}' in [{all}]"
  | .unmatchedClosing position => s!"unmatched ')' at position {position}"
  | .adjacentKind kind position =>
      s!"two {kind.name} tokens in a row at position {position}"
  | .operatorAtEdge combinator position =>
      s!"operator '{combinator.word}' at position {position} cannot start or end a predicate"
  | .mixedOperators expected found depth position =>
      s!"'{found.word}' at position {position} mixes with '{expected.word}' at depth {depth}"

def tokenize (source : String) : Except GrammarError (List Token) :=
  let words := Text.words source
  -- the first word outside the vocabulary is the error
  words.mapM fun word =>
    match Token.ofWord? word with
    | some token => .ok token
    | none => .error (.unknownWord word words)

/-- Check the rules of order from `position` on, with `depth` brackets open and
`previous` the kind of the token before. -/
def checkOrderFrom (position depth : Nat) (previous : Option TokenKind) :
    List Token → Except GrammarError Unit
  | [] => .ok ()
  | token :: rest =>
      if token = .closing ∧ depth = 0 then
        .error (.unmatchedClosing position)
      else if previous = some token.kind then
        .error (.adjacentKind token.kind position)
      else
        match token with
        | .opening => checkOrderFrom (position + 1) (depth + 1) (some .parenthesis) rest
        | .closing => checkOrderFrom (position + 1) (depth - 1) (some .parenthesis) rest
        | .operator combinator =>
            if position = 0 ∨ rest = [] then
              .error (.operatorAtEdge combinator position)
            else
              checkOrderFrom (position + 1) depth (some .operator) rest
        | .atom _ => checkOrderFrom (position + 1) depth (some .expression) rest

/-- Brackets, neighbours and edges.  At one position an unmatched bracket is
reported before a neighbour of the same kind, and that before an edge. -/
def checkOrder (tokens : List Token) : Except GrammarError Unit :=
  checkOrderFrom 0 0 none tokens

/-- Check combinators from `position` on.  `group` is the combinator seen so far
in the innermost open group and `enclosing` lists those of the groups around
it, inside out. -/
def checkUniformFrom (position : Nat) (group : Option Combinator)
    (enclosing : List (Option Combinator)) : List Token → Except GrammarError Unit
  | [] => .ok ()
  | .opening :: rest => checkUniformFrom (position + 1) none (group :: enclosing) rest
  | .closing :: rest =>
      match enclosing with
      -- a bracket that closes nothing is passed over
      | [] => checkUniformFrom (position + 1) group [] rest
      | outer :: enclosing => checkUniformFrom (position + 1) outer enclosing rest
  | .operator found :: rest =>
      match group with
      | none => checkUniformFrom (position + 1) (some found) enclosing rest
      | some expected =>
          if expected = found then
            checkUniformFrom (position + 1) group enclosing rest
          else
            .error (.mixedOperators expected found enclosing.length position)
  | .atom _ :: rest => checkUniformFrom (position + 1) group enclosing rest

/-- One combinator per bracket group. -/
def checkUniform (tokens : List Token) : Except GrammarError Unit :=
  checkUniformFrom 0 none [] tokens

end TenantGuard.Predicate
