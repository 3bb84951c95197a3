import TenantGuard.Filter.Rendering

/-!
# What filters mean

Given which conditions are true, a filter holds or not, and so does a formula in
prefix notation.  The main statement is that the terms of a filter are one
formula, with nothing left over, and that its value is the filter's, provided
that every combination has an operand.  This is what keeps a formula in the middle
of others from shifting their operands.
-/

namespace TenantGuard

namespace Predicate.Combinator

/-- Whether two operands hold together. -/
def join : Combinator → Bool → Bool → Bool
  | .all, left, right => left && right
  | .any, left, right => left || right

/-- Whether no operand at all holds. -/
def unit : Combinator → Bool
  | .all => true
  | .any => false

@[simp] theorem join_unit (combinator : Combinator) (value : Bool) :
    combinator.join value combinator.unit = value := by
  cases combinator
  · exact Bool.and_true value
  · exact Bool.or_false value

theorem join_assoc (combinator : Combinator) (first second third : Bool) :
    combinator.join (combinator.join first second) third =
      combinator.join first (combinator.join second third) := by
  cases combinator
  · exact Bool.and_assoc first second third
  · exact Bool.or_assoc first second third

end Predicate.Combinator

namespace Filter

open Predicate

/-- Which conditions are true. -/
abbrev Assignment := Condition → Bool

mutual

/-- Whether a filter holds. -/
def holds (assignment : Assignment) : Filter → Bool
  | .always => true
  | .condition comparison => assignment comparison
  | .combine combinator operands => holdTogether assignment combinator operands

/-- Whether operands hold together under a combinator. -/
def holdTogether (assignment : Assignment) (combinator : Combinator) : List Filter → Bool
  | [] => combinator.unit
  | operand :: others =>
      combinator.join (operand.holds assignment) (holdTogether assignment combinator others)

end

mutual

/-- Whether every combination in a filter has an operand. -/
def populated : Filter → Bool
  | .always | .condition _ => true
  | .combine _ operands => !operands.isEmpty && allPopulated operands

/-- Whether every combination in a list of filters has an operand. -/
def allPopulated : List Filter → Bool
  | [] => true
  | operand :: others => operand.populated && allPopulated others

end

/-- The values of the formulas that stand one behind the other in a list of
terms.  A combinator takes the two formulas behind it; there is no value if it
lacks one. -/
def formulaValues? (assignment : Assignment) : List Term → Option (List Bool)
  | [] => some []
  | .always :: rest => (formulaValues? assignment rest).map (true :: ·)
  | .condition comparison :: rest =>
      (formulaValues? assignment rest).map (assignment comparison :: ·)
  | .operator combinator :: rest =>
      match formulaValues? assignment rest with
      | some (left :: right :: others) => some (combinator.join left right :: others)
      | _ => none

variable {assignment : Assignment}

theorem formulaValues?_operator {combinator : Combinator} {rest : List Term} {left right : Bool}
    {others : List Bool}
    (values : formulaValues? assignment rest = some (left :: right :: others)) :
    formulaValues? assignment (.operator combinator :: rest) =
      some (combinator.join left right :: others) := by
  rw [formulaValues?, values]

mutual

/-- The terms of a filter are one formula of the filter's value, whatever formulas
stand behind it. -/
theorem formulaValues?_terms_append (filter : Filter) (complete : filter.populated)
    (rest : List Term) (values : List Bool) (read : formulaValues? assignment rest = some values) :
    formulaValues? assignment (filter.terms ++ rest) =
      some (filter.holds assignment :: values) := by
  cases filter with
  | always => rw [terms, List.singleton_append, formulaValues?, read, holds, Option.map_some]
  | condition comparison =>
      rw [terms, List.singleton_append, formulaValues?, read, holds, Option.map_some]
  | combine combinator operands =>
      rw [populated, Bool.and_eq_true] at complete
      rw [terms, holds]
      exact formulaValues?_joinedTerms_append combinator operands complete.1 complete.2 rest values
        read

theorem formulaValues?_joinedTerms_append (combinator : Combinator) (operands : List Filter)
    (nonempty : !operands.isEmpty) (complete : allPopulated operands) (rest : List Term)
    (values : List Bool) (read : formulaValues? assignment rest = some values) :
    formulaValues? assignment (joinedTerms combinator operands ++ rest) =
      some (holdTogether assignment combinator operands :: values) := by
  cases operands with
  | nil => cases nonempty
  | cons operand others =>
      rw [allPopulated, Bool.and_eq_true] at complete
      have behind := formulaValues?_joinedTerms_append combinator others
      cases others with
      | nil =>
          rw [joinedTerms, holdTogether, holdTogether, Combinator.join_unit]
          exact formulaValues?_terms_append operand complete.1 rest values read
      | cons next others =>
          rw [joinedTerms, holdTogether, List.append_assoc, List.cons_append]
          apply formulaValues?_operator
          apply formulaValues?_terms_append operand complete.1
          exact behind rfl complete.2 rest values read

end

/-- The terms of a filter are exactly one formula, of the filter's value. -/
theorem formulaValues?_terms {filter : Filter} (complete : filter.populated) :
    formulaValues? assignment filter.terms = some [filter.holds assignment] := by
  have read : formulaValues? assignment (filter.terms ++ []) = some [filter.holds assignment] :=
    formulaValues?_terms_append filter complete [] [] rfl
  rwa [List.append_nil] at read

/-- Whether a term is a combinator, or a condition on the attribute. -/
def Term.Concerns (field : String) : Term → Prop
  | .always => False
  | .condition comparison => comparison.field = field
  | .operator _ => True

theorem concerns_joinedTerms {field : String} {combinator : Combinator} :
    (operands : List Filter) →
    (∀ operand ∈ operands, ∀ term ∈ operand.terms, term.Concerns field) →
    ∀ term ∈ joinedTerms combinator operands, term.Concerns field := by
  intro operands
  induction operands with
  | nil =>
      intro _ term member
      cases member
  | cons operand others ih =>
      intro concerned term member
      have first := concerned operand List.mem_cons_self
      have behind := ih fun other inOthers => concerned other (List.mem_cons_of_mem _ inOthers)
      cases others with
      | nil => exact first term member
      | cons next others =>
          rw [joinedTerms, List.mem_append, List.mem_cons] at member
          rcases member with (rfl | inOperand) | inOthers
          · trivial
          · exact first term inOperand
          · exact behind term inOthers

theorem concerns_leaf {scope : Scope} {relation : Relation} {value : Value} :
    ∀ term ∈ (scope.leaf relation value).terms, term.Concerns scope.tenantField := by
  intro term member
  rw [List.mem_singleton.mp member]
  rfl

theorem concerns_ofAtom {scope : Scope} (atom : Atom) :
    ∀ term ∈ (ofAtom scope atom).terms, term.Concerns scope.tenantField := by
  cases atom with
  | selectedTenantHierarchy =>
      apply concerns_joinedTerms
      intro operand member
      simp only [List.mem_cons, List.not_mem_nil, or_false] at member
      rcases member with rfl | rfl | rfl <;> exact concerns_leaf
  | unassigned | allowedTenants | selectedTenant | systemTenant => exact concerns_leaf

mutual

/-- The conditions of a rendered expression are about the scope's attribute. -/
theorem concerns_ofExpr {scope : Scope} (expr : Expr) :
    ∀ term ∈ (ofExpr scope expr).terms, term.Concerns scope.tenantField := by
  cases expr with
  | atom atom => exact concerns_ofAtom atom
  | group combinator operands => exact concerns_joinedTerms _ (concerns_ofExprs operands)

theorem concerns_ofExprs {scope : Scope} (exprs : List Expr) :
    ∀ operand ∈ ofExprs scope exprs, ∀ term ∈ operand.terms,
      term.Concerns scope.tenantField := by
  cases exprs with
  | nil =>
      intro operand member
      cases member
  | cons expr rest =>
      intro operand member
      rw [ofExprs, List.mem_cons] at member
      rcases member with rfl | inRest
      · exact concerns_ofExpr expr
      · exact concerns_ofExprs rest operand inRest

end

end Filter

end TenantGuard
