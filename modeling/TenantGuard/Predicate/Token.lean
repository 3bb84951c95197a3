import TenantGuard.Text.Words

/-!
# The vocabulary of access predicates

A predicate is written as words between single spaces.  Every word is a
bracket, one of the two combinators, or a named atom; no other word exists, and
the case of a letter matters.
-/

namespace TenantGuard.Predicate

/-- How operands are joined: all of them must hold, or one of them. -/
inductive Combinator where
  | all
  | any
  deriving DecidableEq, Repr

/-- A named condition on the tenant attribute of a record. -/
inductive Atom where
  /-- The attribute is unset. -/
  | unassigned
  /-- The attribute is one of the tenants that the actor may work for. -/
  | allowedTenants
  /-- The attribute is the tenant that the actor has selected. -/
  | selectedTenant
  /-- The attribute is the selected tenant, an ancestor of it or a descendant. -/
  | selectedTenantHierarchy
  /-- The attribute is the tenant that owns shared data. -/
  | systemTenant
  deriving DecidableEq, Repr

inductive Token where
  | opening
  | closing
  | operator (combinator : Combinator)
  | atom (atom : Atom)
  deriving DecidableEq, Repr

inductive TokenKind where
  | parenthesis
  | operator
  | expression
  deriving DecidableEq, Repr

def Combinator.word : Combinator → String
  | .all => "AND"
  | .any => "OR"

def Atom.word : Atom → String
  | .unassigned => "false"
  | .allowedTenants => "allowed_companies"
  | .selectedTenant => "selected_company"
  | .selectedTenantHierarchy => "selected_company/parent/child"
  | .systemTenant => "system_company"

def TokenKind.name : TokenKind → String
  | .parenthesis => "parenthesis"
  | .operator => "operator"
  | .expression => "expression"

namespace Token

/-- The word that is read as this token, and only as this one. -/
def word : Token → String
  | .opening => "("
  | .closing => ")"
  | .operator combinator => combinator.word
  | .atom name => name.word

def kind : Token → TokenKind
  | .opening | .closing => .parenthesis
  | .operator _ => .operator
  | .atom _ => .expression

def vocabulary : List Token :=
  [.opening, .closing, .operator .all, .operator .any, .atom .unassigned,
    .atom .allowedTenants, .atom .selectedTenant, .atom .selectedTenantHierarchy,
    .atom .systemTenant]

@[simp] theorem mem_vocabulary (token : Token) : token ∈ vocabulary := by
  rcases token with _ | _ | combinator | atom
  · simp [vocabulary]
  · simp [vocabulary]
  · cases combinator <;> simp [vocabulary]
  · cases atom <;> simp [vocabulary]

def ofWord? (word : String) : Option Token :=
  vocabulary.find? fun token => token.word = word

@[simp] theorem ofWord?_word (token : Token) : ofWord? token.word = some token := by
  rcases token with _ | _ | combinator | atom
  · simp [ofWord?, vocabulary, word]
  · simp [ofWord?, vocabulary, word]
  · cases combinator <;> simp [ofWord?, vocabulary, word, Combinator.word]
  · cases atom <;> simp [ofWord?, vocabulary, word, Combinator.word, Atom.word]

theorem word_of_ofWord? {word : String} {token : Token}
    (found : ofWord? word = some token) : token.word = word := by
  simpa using List.find?_some found

def spell (tokens : List Token) : String :=
  " ".intercalate (tokens.map word)

end Token

end TenantGuard.Predicate
