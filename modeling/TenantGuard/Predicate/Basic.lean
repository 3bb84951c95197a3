import TenantGuard.Filter.Rendering
import TenantGuard.Predicate.Structure

/-!
# Access predicates

A predicate is a text whose words pass the structural checks.  From there it is
compiled to an expression and rendered to a filter; either the text or its
brackets can be at fault, and the error says which.
-/

namespace TenantGuard

namespace Predicate

/-- Why a predicate has no filter. -/
inductive Error where
  | grammar (cause : GrammarError)
  | compile (cause : CompileError)
  deriving DecidableEq, Repr

def Error.message : Error → String
  | .grammar cause => s!"grammar error: {cause.message}"
  | .compile cause => s!"compile error: {cause.message}"

end Predicate

/-- A text that passed the structural checks, with its tokens. -/
structure Predicate where
  source : String
  tokens : List Predicate.Token
  deriving Repr

namespace Predicate

/-- Read a text and check its structure.  Unknown words are reported before
faults of order, and those before mixed combinators. -/
def parse (source : String) : Except GrammarError Predicate := do
  let tokens ← tokenize source
  checkOrder tokens
  checkUniform tokens
  return { source, tokens }

/-- The expression of a predicate. -/
def expr (predicate : Predicate) : Except CompileError Expr :=
  compile predicate.tokens

/-- The filter that a text stands for in a scope. -/
def render (source : String) (scope : Filter.Scope) : Except Error Filter := do
  let predicate ← (parse source).mapError .grammar
  let expr ← predicate.expr.mapError .compile
  return .ofExpr scope expr

end Predicate

end TenantGuard
