import TenantGuard.Predicate.Basic
import TenantGuard.Proofs.Predicate.Grammar
import TenantGuard.Proofs.Predicate.Order

/-!
# The structural checks and the grammar

Of the rules that are checked before a token list is reduced, the grammar implies all but
one.  What it derives has one combinator per bracket group, closes no bracket that is not
open, and begins and ends with an operand.  Only that neighbours are of different kinds is
a demand of its own: it forbids brackets side by side.  The main statement is that a text
has a tree exactly if its tokens alternate in this way and are derived with that tree.
-/

namespace TenantGuard.Predicate

variable {tokens : List Token} {phrase : Phrase}

/-- The tokens between which a phrase is spelled. -/
def Phrase.Edged (tokens : List Token) : Phrase → Prop
  | .predicate _ | .operand _ =>
      (∃ first ∈ tokens.head?, first.kind ≠ .operator) ∧
        ∃ last ∈ tokens.getLast?, last.kind ≠ .operator
  | .continuation combinator _ =>
      (∃ behind, tokens = .operator combinator :: behind ∧ behind ≠ []) ∧
        ∃ last ∈ tokens.getLast?, last.kind ≠ .operator

/-- Operands stand at both ends of a phrase, but for the combinator that a continuation
begins with. -/
theorem Derives.edged (derived : Derives tokens phrase) : phrase.Edged tokens := by
  have lastOf : ∀ (before : List Token) {behind : List Token},
      (∃ last ∈ behind.getLast?, last.kind ≠ .operator) →
        ∃ last ∈ (before ++ behind).getLast?, last.kind ≠ .operator := by
    rintro before behind ⟨last, isLast, notOperator⟩
    exact ⟨last, by simp [List.getLast?_append, Option.mem_def.mp isLast], notOperator⟩
  induction derived with
  | lone _ operandIH => exact operandIH
  | joined _ _ firstIH othersIH =>
      obtain ⟨⟨first, isFirst, notOperator⟩, _⟩ := firstIH
      refine ⟨⟨first, ?_, notOperator⟩, lastOf _ othersIH.2⟩
      simp [List.head?_append, Option.mem_def.mp isFirst]
  | atom atom => exact ⟨⟨_, rfl, by simp [Token.kind]⟩, ⟨_, rfl, by simp [Token.kind]⟩⟩
  | bracketed =>
      refine ⟨⟨_, rfl, by simp [Token.kind]⟩, lastOf _ ⟨_, rfl, by simp [Token.kind]⟩⟩
  | @last tokens _ combinator _ operandIH =>
      refine ⟨⟨tokens, rfl, ?_⟩, lastOf [.operator combinator] operandIH.2⟩
      rintro rfl
      obtain ⟨⟨_, missing, _⟩, _⟩ := operandIH
      cases missing
  | @more tokens rest _ combinator _ _ _ operandIH othersIH =>
      refine ⟨⟨tokens ++ rest, rfl, ?_⟩,
        lastOf (.operator combinator :: tokens) othersIH.2⟩
      rw [ne_eq, List.append_eq_nil_iff, not_and]
      rintro rfl
      obtain ⟨⟨_, missing, _⟩, _⟩ := operandIH
      cases missing

/-! ## Uniform combinators -/

/-- What the check of combinators makes of a phrase, whatever stands before and behind
it. -/
def Phrase.Uniform (tokens : List Token) : Phrase → Prop
  | .predicate _ => ∀ position enclosing rest, ∃ next group,
      checkUniformFrom position none enclosing (tokens ++ rest) =
        checkUniformFrom next group enclosing rest
  | .operand _ => ∀ position group enclosing rest, ∃ next,
      checkUniformFrom position group enclosing (tokens ++ rest) =
        checkUniformFrom next group enclosing rest
  | .continuation combinator _ => ∀ position group enclosing rest,
      group.all (· = combinator) → ∃ next,
        checkUniformFrom position group enclosing (tokens ++ rest) =
          checkUniformFrom next (some combinator) enclosing rest

/-- A combinator that agrees with its group is passed over. -/
theorem checkUniformFrom_operator {combinator : Combinator} {group : Option Combinator}
    (agrees : group.all (· = combinator)) (position : Nat)
    (enclosing : List (Option Combinator)) (rest : List Token) :
    checkUniformFrom position group enclosing (.operator combinator :: rest) =
      checkUniformFrom (position + 1) (some combinator) enclosing rest := by
  cases group with
  | none => rfl
  | some expected =>
      have same : expected = combinator := by simpa using agrees
      rw [same, checkUniformFrom, if_pos rfl]

/-- The grammar has one combinator per group. -/
theorem Derives.uniform (derived : Derives tokens phrase) : phrase.Uniform tokens := by
  induction derived with
  | lone _ operandIH =>
      intro position enclosing rest
      obtain ⟨next, checked⟩ := operandIH position none enclosing rest
      exact ⟨next, none, checked⟩
  | @joined _ others _ combinator _ _ _ firstIH othersIH =>
      intro position enclosing rest
      obtain ⟨middle, first⟩ := firstIH position none enclosing (others ++ rest)
      obtain ⟨next, behind⟩ := othersIH middle none enclosing rest rfl
      exact ⟨next, some combinator, by rw [List.append_assoc, first, behind]⟩
  | atom atom => exact fun position group enclosing rest => ⟨position + 1, rfl⟩
  | bracketed _ predicateIH =>
      intro position group enclosing rest
      obtain ⟨next, inner, checked⟩ :=
        predicateIH (position + 1) (group :: enclosing) (.closing :: rest)
      refine ⟨next + 1, ?_⟩
      rw [List.append_assoc]
      exact checked
  | last _ operandIH =>
      intro position group enclosing rest agrees
      obtain ⟨next, checked⟩ := operandIH (position + 1) (some _) enclosing rest
      refine ⟨next, ?_⟩
      rw [List.cons_append, checkUniformFrom_operator agrees, checked]
  | @more _ others _ combinator _ _ _ operandIH othersIH =>
      intro position group enclosing rest agrees
      obtain ⟨middle, first⟩ := operandIH (position + 1) (some combinator) enclosing
        (others ++ rest)
      obtain ⟨next, behind⟩ := othersIH middle (some combinator) enclosing rest (by simp)
      refine ⟨next, ?_⟩
      rw [List.append_assoc, List.cons_append, checkUniformFrom_operator agrees, first, behind]

/-! ## Order -/

/-- Within brackets that alternate with what they enclose, neither end is a bracket. -/
theorem Alternates.enclosed (alternates : Alternates (.opening :: tokens ++ [.closing])) :
    Alternates tokens ∧ (∀ first ∈ tokens.head?, first.kind ≠ .parenthesis) ∧
      ∀ last ∈ tokens.getLast?, last.kind ≠ .parenthesis := by
  obtain ⟨opened, _, beforeClosing⟩ := List.isChain_append.mp alternates
  obtain ⟨behindOpening, inner⟩ := List.isChain_cons.mp opened
  refine ⟨inner, fun first isFirst => (behindOpening first isFirst).symm, ?_⟩
  intro last isLast
  have nonempty : tokens ≠ [] := by
    rintro rfl
    cases isLast
  exact beforeClosing last (by rwa [List.getLast?_cons_of_ne_nil nonempty]) .closing rfl

theorem ne_nil_of_first {holds : Token → Prop} (first : ∃ first ∈ tokens.head?, holds first) :
    tokens ≠ [] := by
  rintro rfl
  obtain ⟨_, missing, _⟩ := first
  cases missing

/-- The grammar closes the brackets that it opens. -/
theorem Derives.balanced (derived : Derives tokens phrase) : Balanced tokens := by
  induction derived with
  | lone _ operandIH => exact operandIH
  | joined _ _ firstIH othersIH => exact firstIH.append othersIH
  | atom atom => exact .of_kind (by simp [Token.kind])
  | bracketed _ predicateIH => exact predicateIH.bracketed
  | @last _ _ combinator _ operandIH =>
      have operator : Balanced [.operator combinator] := .of_kind (by simp [Token.kind])
      exact operator.append operandIH
  | @more _ _ _ combinator _ _ _ operandIH othersIH =>
      have operator : Balanced [.operator combinator] := .of_kind (by simp [Token.kind])
      exact (operator.append operandIH).append othersIH

/-! ## Acceptance -/

variable {expr : Expr} {source : String}

/-- A predicate passes the check of order if its tokens alternate. -/
theorem Derives.checkOrder (derived : Derives tokens (.predicate expr))
    (alternates : Alternates tokens) : Predicate.checkOrder tokens = .ok () := by
  obtain ⟨⟨first, isFirst, firstUnlike⟩, last, isLast, lastUnlike⟩ := derived.edged
  apply checkOrder_eq_ok_iff.mpr
  refine ⟨derived.balanced.never, alternates, fun other isFirstToo => ?_, fun other isLastToo => ?_⟩
  · rwa [Option.mem_unique isFirstToo isFirst]
  · rwa [Option.mem_unique isLastToo isLast]

/-- A predicate passes the check of combinators. -/
theorem Derives.checkUniform (derived : Derives tokens (.predicate expr)) :
    Predicate.checkUniform tokens = .ok () := by
  obtain ⟨next, group, checked⟩ := derived.uniform 0 [] []
  rw [List.append_nil] at checked
  exact checked

/-- A text has a tree exactly if its tokens alternate and are derived with that tree. -/
theorem parse_expr_eq_ok_iff :
    (∃ predicate, parse source = .ok predicate ∧ predicate.expr = .ok expr) ↔
      ∃ tokens, tokenize source = .ok tokens ∧ Alternates tokens ∧
        Derives tokens (.predicate expr) := by
  constructor
  · rintro ⟨predicate, parsed, compiled⟩
    obtain ⟨tokens, tokenized, checked⟩ := Except.bind_eq_ok.mp parsed
    obtain ⟨_, inOrder, uniform⟩ := Except.bind_eq_ok.mp checked
    obtain ⟨_, _, returned⟩ := Except.bind_eq_ok.mp uniform
    cases returned
    exact ⟨tokens, tokenized, (checkOrder_eq_ok_iff.mp inOrder).alternates,
      derives_of_compile compiled⟩
  · rintro ⟨tokens, tokenized, alternates, derived⟩
    refine ⟨⟨source, tokens⟩, ?_, derived.compile⟩
    rw [parse, tokenized]
    change (checkOrder tokens >>= fun _ => _) = _
    rw [derived.checkOrder alternates]
    change (checkUniform tokens >>= fun _ => _) = _
    rw [derived.checkUniform]
    rfl

end TenantGuard.Predicate
