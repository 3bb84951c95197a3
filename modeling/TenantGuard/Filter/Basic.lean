import TenantGuard.Predicate.Token

/-!
# Record filters

A filter selects records by conditions on one attribute each.  The store keeps
a filter as text in prefix notation: a combinator is written before its two
operands, so a combination of `n` operands spends `n - 1` combinators, each in
front of an operand that is not the last.
-/

namespace TenantGuard

open Predicate (Combinator)

namespace Filter

/-- How a condition compares its attribute with its value. -/
inductive Relation where
  | eq
  | isIn
  | parentOf
  | childOf
  deriving DecidableEq, Repr

/-- What a condition compares with.  The first two are looked up for the actor
when the store evaluates the filter. -/
inductive Value where
  | allowedTenants
  | selectedTenant
  | bool (value : Bool)
  | int (value : Int)
  deriving DecidableEq, Repr

/-- A comparison of one attribute. -/
structure Condition where
  field : String
  relation : Relation
  value : Value
  deriving DecidableEq, Repr

end Filter

/-- Which records a rule applies to. -/
inductive Filter where
  /-- Every record. -/
  | always
  | condition (condition : Filter.Condition)
  | combine (combinator : Combinator) (operands : List Filter)
  deriving Repr

namespace Filter

def Relation.symbol : Relation → String
  | .eq => "="
  | .isIn => "in"
  | .parentOf => "parent_of"
  | .childOf => "child_of"

def Value.text : Value → String
  | .allowedTenants => "company_ids"
  | .selectedTenant => "company_id"
  | .bool true => "True"
  | .bool false => "False"
  | .int value => toString value

def Condition.text (condition : Condition) : String :=
  s!"('{condition.field}','{condition.relation.symbol}',{condition.value.text})"

/-- The sign that a combinator has in prefix notation. -/
def combinatorSign : Combinator → String
  | .all => "&"
  | .any => "|"

/-- One element of a filter in prefix notation. -/
inductive Term where
  /-- The condition that every record meets. -/
  | always
  | condition (condition : Condition)
  | operator (combinator : Combinator)
  deriving DecidableEq, Repr

def Term.text : Term → String
  | .always => "(1, '=', 1)"
  | .condition comparison => comparison.text
  | .operator combinator => s!"'{combinatorSign combinator}'"

mutual

/-- The filter in prefix notation. -/
def terms : Filter → List Term
  | .always => [.always]
  | .condition comparison => [.condition comparison]
  | .combine combinator operands => joinedTerms combinator operands

/-- Operands in prefix notation under one combinator, nested to the right. -/
def joinedTerms (combinator : Combinator) : List Filter → List Term
  | [] => []
  | [operand] => operand.terms
  | operand :: next :: others =>
      .operator combinator :: operand.terms ++ joinedTerms combinator (next :: others)

end

/-- The text that the store keeps. -/
def domain (filter : Filter) : String :=
  "[" ++ ", ".intercalate (filter.terms.map Term.text) ++ "]"

end Filter

end TenantGuard
