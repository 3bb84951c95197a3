import TenantGuard.Predicate.Basic
import TenantGuard.Proofs.Filter.Meaning
import TenantGuard.Proofs.Predicate.Grammar

/-!
# What predicates mean

The words of a predicate can be read as they stand, from left to right, without
building a tree: a combinator joins what its group is worth so far with the next
operand, and a bracket sets the group around it aside.  The main statement is that
the filter of an accepted predicate, read as prefix notation, has the same value,
and that all its conditions are about the scope's tenant attribute.
-/

namespace TenantGuard.Predicate

inductive Progress where
  | nothing
  | worth (value : Bool)
  /-- A combinator waits for its second operand. -/
  | waiting (value : Bool) (combinator : Combinator)

def Progress.operand? : Progress → Bool → Option Progress
  | .nothing, value => some (.worth value)
  | .worth _, _ => none
  | .waiting before combinator, value => some (.worth (combinator.join before value))

/-- The value of the tokens that are left, given what has been read of the
innermost open group and of those around it, inside out. -/
def valueFrom? (meaning : Atom → Bool) (group : Progress) (enclosing : List Progress) :
    List Token → Option Bool
  | [] =>
      match group, enclosing with
      | .worth value, [] => some value
      | _, _ => none
  | .opening :: rest => valueFrom? meaning .nothing (group :: enclosing) rest
  | .closing :: rest =>
      match group, enclosing with
      | .worth value, outer :: enclosing =>
          (outer.operand? value).bind fun outer => valueFrom? meaning outer enclosing rest
      | _, _ => none
  | .operator combinator :: rest =>
      match group with
      | .worth value => valueFrom? meaning (.waiting value combinator) enclosing rest
      | _ => none
  | .atom atom :: rest =>
      (group.operand? (meaning atom)).bind fun group => valueFrom? meaning group enclosing rest

/-- The value of a token list, read from left to right. -/
def value? (meaning : Atom → Bool) (tokens : List Token) : Option Bool :=
  valueFrom? meaning .nothing [] tokens

def Atom.holds (scope : Filter.Scope) (assignment : Filter.Assignment) : Atom → Bool
  | .unassigned => assignment ⟨scope.tenantField, .eq, .bool false⟩
  | .allowedTenants => assignment ⟨scope.tenantField, .isIn, .allowedTenants⟩
  | .selectedTenant => assignment ⟨scope.tenantField, .eq, .selectedTenant⟩
  | .selectedTenantHierarchy =>
      assignment ⟨scope.tenantField, .eq, .selectedTenant⟩ ||
        assignment ⟨scope.tenantField, .parentOf, .selectedTenant⟩ ||
        assignment ⟨scope.tenantField, .childOf, .selectedTenant⟩
  | .systemTenant => assignment ⟨scope.tenantField, .eq, .int scope.systemTenant⟩

section

variable {scope : Filter.Scope} {assignment : Filter.Assignment}

def Expr.holds (scope : Filter.Scope) (assignment : Filter.Assignment) (expr : Expr) : Bool :=
  (Filter.ofExpr scope expr).holds assignment

theorem Expr.holds_atom (atom : Atom) :
    Expr.holds scope assignment (.atom atom) = atom.holds scope assignment := by
  cases atom with
  | selectedTenantHierarchy =>
      change (_ || (_ || (_ || false))) = (_ || _ || _)
      rw [Bool.or_false, Bool.or_assoc]
      rfl
  | unassigned | allowedTenants | selectedTenant | systemTenant => rfl

/-- What reading the tokens of a phrase does to the value of its group, whatever
stands before and behind them. -/
def Phrase.Means (scope : Filter.Scope) (assignment : Filter.Assignment) (tokens : List Token) :
    Phrase → Prop
  | .predicate expr => ∀ enclosing rest,
      valueFrom? (Atom.holds scope assignment) .nothing enclosing (tokens ++ rest) =
        valueFrom? (Atom.holds scope assignment) (.worth (expr.holds scope assignment))
          enclosing rest
  | .operand expr => ∀ group enclosing rest,
      valueFrom? (Atom.holds scope assignment) group enclosing (tokens ++ rest) =
        (group.operand? (expr.holds scope assignment)).bind fun group =>
          valueFrom? (Atom.holds scope assignment) group enclosing rest
  | .continuation combinator operands => ∀ value enclosing rest,
      valueFrom? (Atom.holds scope assignment) (.worth value) enclosing (tokens ++ rest) =
        valueFrom? (Atom.holds scope assignment)
          (.worth (combinator.join value
            (Filter.holdTogether assignment combinator (Filter.ofExprs scope operands))))
          enclosing rest

/-- Reading a derived phrase from left to right gives the value of its tree. -/
theorem Derives.means {tokens : List Token} {phrase : Phrase} (derived : Derives tokens phrase) :
    phrase.Means scope assignment tokens := by
  induction derived with
  | lone _ operandIH =>
      intro enclosing rest
      exact operandIH .nothing enclosing rest
  | joined _ _ firstIH othersIH =>
      intro enclosing rest
      rw [List.append_assoc]
      exact (firstIH .nothing enclosing _).trans (othersIH _ enclosing rest)
  | atom atom =>
      intro group enclosing rest
      rw [Expr.holds_atom]
      rfl
  | bracketed _ predicateIH =>
      intro group enclosing rest
      rw [List.append_assoc]
      exact predicateIH (group :: enclosing) (.closing :: rest)
  | @last tokens expr combinator _ operandIH =>
      intro value enclosing rest
      rw [Filter.ofExprs, Filter.ofExprs, Filter.holdTogether, Filter.holdTogether,
        Combinator.join_unit]
      exact operandIH (.waiting value combinator) enclosing rest
  | @more tokens continued expr combinator operands _ _ operandIH continuedIH =>
      intro value enclosing rest
      rw [Filter.ofExprs, Filter.holdTogether, ← Combinator.join_assoc, List.append_assoc]
      exact (operandIH (.waiting value combinator) enclosing _).trans
        (continuedIH _ enclosing rest)

/-- Whether no filter of a phrase has a combination without operands. -/
def Phrase.Populated (scope : Filter.Scope) : Phrase → Prop
  | .predicate expr | .operand expr => (Filter.ofExpr scope expr).populated = true
  | .continuation _ operands => Filter.allPopulated (Filter.ofExprs scope operands) = true

theorem Derives.populated {tokens : List Token} {phrase : Phrase}
    (derived : Derives tokens phrase) : phrase.Populated scope := by
  induction derived with
  | lone _ operandIH => exact operandIH
  | joined _ _ firstIH othersIH =>
      exact Bool.and_eq_true_iff.mpr ⟨firstIH, othersIH⟩
  | atom atom => cases atom <;> rfl
  | bracketed _ predicateIH => exact predicateIH
  | last _ operandIH =>
      exact Bool.and_eq_true_iff.mpr ⟨operandIH, rfl⟩
  | more _ _ operandIH continuedIH =>
      exact Bool.and_eq_true_iff.mpr ⟨operandIH, continuedIH⟩

/-- The tree of a predicate holds exactly if its tokens, read from left to right,
do. -/
theorem value?_of_compile {tokens : List Token} {expr : Expr}
    (compiled : compile tokens = .ok expr) :
    value? (Atom.holds scope assignment) tokens = some (expr.holds scope assignment) := by
  have means : (Phrase.predicate expr).Means scope assignment tokens :=
    (derives_of_compile compiled).means
  have read := means [] []
  rw [List.append_nil] at read
  exact read

end

/-- A text that has a filter has tokens, and they have the filter's tree. -/
theorem compile_of_render {source : String} {scope : Filter.Scope} {filter : Filter}
    (rendered : render source scope = .ok filter) :
    ∃ tokens expr, tokenize source = .ok tokens ∧ compile tokens = .ok expr ∧
      filter = Filter.ofExpr scope expr := by
  obtain ⟨predicate, parsed, continued⟩ := Except.bind_eq_ok.mp rendered
  obtain ⟨expr, compiled, returned⟩ := Except.bind_eq_ok.mp continued
  obtain ⟨tokens, tokenized, checked⟩ := Except.bind_eq_ok.mp (Except.mapError_eq_ok.mp parsed)
  obtain ⟨_, _, ordered⟩ := Except.bind_eq_ok.mp checked
  obtain ⟨_, _, uniform⟩ := Except.bind_eq_ok.mp ordered
  cases uniform
  cases returned
  exact ⟨tokens, expr, tokenized, Except.mapError_eq_ok.mp compiled, rfl⟩

/-- Rendering preserves meaning.  The terms of an accepted predicate's filter are
exactly one formula, whose value is that of the predicate's words and whose
conditions are about the scope's attribute.  The terms of any filter whose
combinations have operands are one formula of the filter's value. -/
theorem formulaValues?_terms_of_render :
    (∀ source scope filter, render source scope = .ok filter →
      (∃ tokens, tokenize source = .ok tokens ∧ ∀ assignment : Filter.Assignment, ∃ value,
        value? (Atom.holds scope assignment) tokens = some value ∧
        Filter.formulaValues? assignment filter.terms = some [value]) ∧
      ∀ term ∈ filter.terms, term.Concerns scope.tenantField) ∧
    ∀ (filter : Filter) (assignment : Filter.Assignment), filter.populated = true →
      Filter.formulaValues? assignment filter.terms = some [filter.holds assignment] := by
  constructor
  · intro source scope filter rendered
    obtain ⟨tokens, expr, tokenized, compiled, rfl⟩ := compile_of_render rendered
    constructor
    · refine ⟨tokens, tokenized, fun assignment => ⟨expr.holds scope assignment, ?_, ?_⟩⟩
      · exact value?_of_compile compiled
      · exact Filter.formulaValues?_terms (derives_of_compile compiled).populated
    · exact Filter.concerns_ofExpr expr
  · intro filter assignment complete
    exact Filter.formulaValues?_terms complete

/-- The predicate of shared reading has a combination in the middle of another one. -/
theorem formulaValues?_terms_of_shared_read :
    ∃ filter, render "system_company OR ( allowed_companies AND selected_company/parent/child )"
        ⟨"company_id", 1⟩ = .ok filter ∧
      filter.terms.length = 9 ∧ filter.populated = true ∧
      (∀ assignment : Filter.Assignment, ∃ value,
        Filter.formulaValues? assignment filter.terms = some [value]) ∧
      (∀ term ∈ filter.terms, term.Concerns "company_id") ∧
      ∀ assignment : Filter.Assignment,
        Filter.formulaValues? assignment filter.terms = some [filter.holds assignment] := by
  have rendered :
      render "system_company OR ( allowed_companies AND selected_company/parent/child )"
        ⟨"company_id", 1⟩ = .ok (.ofExpr ⟨"company_id", 1⟩
          (.group .any [.atom .systemTenant,
            .group .all [.atom .allowedTenants, .atom .selectedTenantHierarchy]])) := by
    rfl
  obtain ⟨⟨_, _, read⟩, concerned⟩ := formulaValues?_terms_of_render.1 _ _ _ rendered
  refine ⟨_, rendered, rfl, rfl, ?_, concerned, ?_⟩
  · intro assignment
    obtain ⟨value, _, one⟩ := read assignment
    exact ⟨value, one⟩
  · intro assignment
    exact formulaValues?_terms_of_render.2 _ assignment rfl

end TenantGuard.Predicate
