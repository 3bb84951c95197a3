/-!
# SQL identifiers

Names of tables and columns are written into statements, so only names of
letters, digits and underscores are let through.  The letters are those of the
basic alphabet.
-/

namespace TenantGuard.Sql

def startsPlain (c : Char) : Bool :=
  c.isAlpha || c = '_'

def isPlainLetter (c : Char) : Bool :=
  c.isAlphanum || c = '_'

/-- Whether a name can stand in a statement without quotes: at most sixty-three
plain letters, the first no digit. -/
def isPlain (name : String) : Bool :=
  match name.toList with
  | [] => false
  | first :: rest => startsPlain first && rest.length ≤ 62 && rest.all isPlainLetter

inductive IdentifierError where
  | empty
  | invalid (name : String)
  deriving DecidableEq, Repr

def IdentifierError.message : IdentifierError → String
  | .empty => "empty identifier"
  | .invalid name => s!"invalid identifier '{name}'"

/-- A name between double quotes.  Only plain letters may occur in it, so the
quotes cannot be closed from within. -/
def quote (name : String) : Except IdentifierError String :=
  if name = "" then
    .error .empty
  else if name.toList.all isPlainLetter then
    .ok s!"\"{name}\""
  else
    .error (.invalid name)

end TenantGuard.Sql
