import TenantGuard.Predicate.Expr
import TenantGuard.Proofs.Except

/-!
# The grammar of access predicates

A predicate is one operand, or at least two operands joined by one and the same
combinator; an operand is an atom or a predicate in brackets.  The grammar is
stated here without any reference to the reduction, as a relation between token
lists and the trees that they spell.  The main statement is that the reduction
accepts exactly the token lists of the grammar and returns the tree of the
derivation.

The reduction keeps the items of every open group on a stack.  Soundness follows
the tokens that are left and carries the stretch of tokens that each group on the
stack has read; completeness follows the derivation.
-/

namespace TenantGuard.Predicate

/-- What a stretch of tokens can stand for. -/
inductive Phrase where
  | predicate (expr : Expr)
  | operand (expr : Expr)
  /-- One or more further operands, each behind the combinator. -/
  | continuation (combinator : Combinator) (operands : List Expr)

/-- The grammar.  A lone operand stands for itself, whatever brackets it has. -/
inductive Derives : List Token → Phrase → Prop where
  | lone {tokens expr} :
      Derives tokens (.operand expr) → Derives tokens (.predicate expr)
  | joined {tokens rest first combinator others} :
      Derives tokens (.operand first) → Derives rest (.continuation combinator others) →
      Derives (tokens ++ rest) (.predicate (.group combinator (first :: others)))
  | atom (atom) : Derives [.atom atom] (.operand (.atom atom))
  | bracketed {tokens expr} :
      Derives tokens (.predicate expr) →
      Derives (.opening :: tokens ++ [.closing]) (.operand expr)
  | last {tokens expr combinator} :
      Derives tokens (.operand expr) →
      Derives (.operator combinator :: tokens) (.continuation combinator [expr])
  | more {tokens rest expr combinator operands} :
      Derives tokens (.operand expr) → Derives rest (.continuation combinator operands) →
      Derives (.operator combinator :: tokens ++ rest) (.continuation combinator (expr :: operands))

variable {tokens rest : List Token} {expr : Expr} {combinator : Combinator}
variable {operands : List Expr}

/-- A continuation grows at its end, which is where a reading adds operands. -/
theorem Derives.snoc {phrase : Phrase} (continued : Derives rest phrase)
    (phraseEq : phrase = .continuation combinator operands)
    (next : Derives tokens (.operand expr)) :
    Derives (rest ++ .operator combinator :: tokens)
      (.continuation combinator (operands ++ [expr])) := by
  induction continued generalizing operands with
  | lone => cases phraseEq
  | joined => cases phraseEq
  | atom => cases phraseEq
  | bracketed => cases phraseEq
  | last operand =>
      cases phraseEq
      exact .more operand (.last next)
  | more operand _ _ continuedIH =>
      cases phraseEq
      have grown := Derives.more operand (continuedIH rfl)
      simpa only [List.cons_append, List.append_assoc] using grown

/-! ## What a group has read -/

/-- The tokens that the items of a group, latest first, were read from. -/
inductive Spells : List (Nat × Item) → List Token → Prop where
  | nil : Spells [] []
  | operand {items before} {tokens : List Token} {expr : Expr} (position) :
      Spells items before → Derives tokens (.operand expr) →
      Spells ((position, .operand expr) :: items) (before ++ tokens)
  | operator {items before} (position) (combinator : Combinator) :
      Spells items before →
      Spells ((position, .operator combinator) :: items) (before ++ [.operator combinator])

/-- The tokens that a reading has read. -/
inductive Reading.Spans : Reading → List Token → Prop where
  | nothing : Spans {} []
  | lone {tokens : List Token} {expr : Expr} :
      Derives tokens (.operand expr) → Spans ⟨[expr], none, false⟩ tokens
  | joined {tokens rest : List Token} {first : Expr} {combinator : Combinator}
      {others : List Expr} :
      Derives tokens (.operand first) → Derives rest (.continuation combinator others) →
      Spans ⟨first :: others, some combinator, false⟩ (tokens ++ rest)
  | afterLone {tokens : List Token} {expr : Expr} (combinator : Combinator) :
      Derives tokens (.operand expr) →
      Spans ⟨[expr], some combinator, true⟩ (tokens ++ [.operator combinator])
  | afterJoined {tokens rest : List Token} {first : Expr} {combinator : Combinator}
      {others : List Expr} :
      Derives tokens (.operand first) → Derives rest (.continuation combinator others) →
      Spans ⟨first :: others, some combinator, true⟩ (tokens ++ rest ++ [.operator combinator])

namespace Reading

theorem Spans.read_operand {reading next : Reading} {position : Nat} {before : List Token}
    (spans : reading.Spans before) (operand : Derives tokens (.operand expr))
    (read : reading.read (position, .operand expr) = .ok next) :
    next.Spans (before ++ tokens) := by
  cases spans with
  | nothing =>
      cases read
      exact .lone operand
  | lone => cases read
  | joined => cases read
  | afterLone combinator first =>
      cases read
      rw [List.append_assoc]
      exact .joined first (.last operand)
  | afterJoined first others =>
      cases read
      rw [List.append_assoc, List.append_assoc]
      exact .joined first (others.snoc rfl operand)

theorem Spans.read_operator {reading next : Reading} {position : Nat} {before : List Token}
    (spans : reading.Spans before)
    (read : reading.read (position, .operator combinator) = .ok next) :
    next.Spans (before ++ [.operator combinator]) := by
  cases spans with
  | nothing => cases read
  | lone first =>
      cases read
      exact .afterLone combinator first
  | @joined _ _ _ expected _ first others =>
      by_cases same : expected = combinator
      · subst same
        simp only [Reading.read, Option.all_some, decide_true, Bool.false_eq_true, ↓reduceIte,
          Except.ok.injEq] at read
        subst read
        exact .afterJoined first others
      · simp [Reading.read, same] at read
  | afterLone => cases read
  | afterJoined => cases read

/-- A reading that can be finished has read a predicate. -/
theorem Spans.finish {reading : Reading} {position : Nat} (spans : reading.Spans tokens)
    (finished : reading.finish position = .ok expr) : Derives tokens (.predicate expr) := by
  cases spans with
  | nothing => cases finished
  | lone operand =>
      cases finished
      exact .lone operand
  | joined first others =>
      cases finished
      exact .joined first others
  | afterLone => cases finished
  | afterJoined => cases finished

end Reading

theorem Spells.spans {items : List (Nat × Item)} (spelled : Spells items tokens)
    {reading : Reading} (folded : items.reverse.foldlM Reading.read {} = .ok reading) :
    reading.Spans tokens := by
  induction spelled generalizing reading with
  | nil =>
      cases folded
      exact .nothing
  | operand position _ derived ih =>
      rw [List.reverse_cons, List.foldlM_append] at folded
      obtain ⟨previous, earlier, last⟩ := Except.bind_eq_ok.mp folded
      rw [List.foldlM_cons] at last
      obtain ⟨next, read, ended⟩ := Except.bind_eq_ok.mp last
      cases ended
      exact (ih earlier).read_operand derived read
  | operator position combinator _ ih =>
      rw [List.reverse_cons, List.foldlM_append] at folded
      obtain ⟨previous, earlier, last⟩ := Except.bind_eq_ok.mp folded
      rw [List.foldlM_cons] at last
      obtain ⟨next, read, ended⟩ := Except.bind_eq_ok.mp last
      cases ended
      exact (ih earlier).read_operator read

/-- Items that reduce to a tree were read from a predicate with that tree. -/
theorem Spells.reduce {items : List (Nat × Item)} {position : Nat}
    (spelled : Spells items tokens) (reduced : reduce items.reverse position = .ok expr) :
    Derives tokens (.predicate expr) := by
  obtain ⟨reading, folded, finished⟩ := Except.bind_eq_ok.mp reduced
  exact (spelled.spans folded).finish finished

/-! ## Soundness -/

/-- The tokens that led to the innermost open group, given the groups around it,
inside out. -/
inductive Encloses : List (List (Nat × Item)) → List Token → Prop where
  | outermost : Encloses [] []
  | inside {enclosing before} {group : List (Nat × Item)} {tokens : List Token} :
      Encloses enclosing before → Spells group tokens →
      Encloses (group :: enclosing) (before ++ tokens ++ [.opening])

/-- What the reduction accepts, together with what it has read already, is a
predicate with the tree that it returns. -/
theorem derives_of_compileFrom {position : Nat} {group : List (Nat × Item)}
    {enclosing : List (List (Nat × Item))} {before read : List Token}
    (enclosed : Encloses enclosing before) (spelled : Spells group read)
    (compiled : compileFrom position group enclosing tokens = .ok expr) :
    Derives (before ++ read ++ tokens) (.predicate expr) := by
  induction tokens generalizing position group enclosing before read with
  | nil =>
      cases enclosed with
      | outermost =>
          rw [List.nil_append, List.append_nil]
          exact spelled.reduce compiled
      | inside => cases compiled
  | cons token tokens ih =>
      rw [List.append_cons]
      cases token with
      | opening =>
          have derived := ih (enclosed.inside spelled) .nil compiled
          rwa [List.append_nil] at derived
      | closing =>
          cases enclosed with
          | outermost => cases compiled
          | @inside _ before outer readBefore enclosed outerSpelled =>
              obtain ⟨inner, reduced, compiled⟩ := Except.bind_eq_ok.mp compiled
              have bracketed := Derives.bracketed (spelled.reduce reduced)
              have derived := ih enclosed (.operand position outerSpelled bracketed) compiled
              simpa only [List.append_assoc, List.cons_append, List.nil_append] using derived
      | operator combinator =>
          rw [List.append_assoc before]
          exact ih enclosed (.operator position combinator spelled) compiled
      | atom atom =>
          rw [List.append_assoc before]
          exact ih enclosed (.operand position spelled (.atom atom)) compiled

/-! ## Completeness -/

/-- What the items that a phrase leaves in its group, latest first, come to. -/
def Phrase.Leaves (items : List (Nat × Item)) : Phrase → Prop
  | .predicate expr => ∀ finish, reduce items.reverse finish = .ok expr
  | .operand expr => ∃ place, items = [(place, .operand expr)]
  | .continuation combinator operands =>
      ∀ reading : Reading, reading.awaitsOperand = false →
        reading.combinator.all (· = combinator) = true →
        items.reverse.foldlM Reading.read reading =
          .ok ⟨reading.operands ++ operands, some combinator, false⟩

/-- The tokens of a phrase leave their items in the innermost open group,
whatever stands before and behind them. -/
def Phrase.ReadFrom (tokens : List Token) (phrase : Phrase) : Prop :=
  ∀ position group enclosing rest, ∃ next items,
    compileFrom position group enclosing (tokens ++ rest) =
      compileFrom next (items ++ group) enclosing rest ∧
    phrase.Leaves items

/-- An operand behind a combinator is one more operand of the reading. -/
theorem foldlM_read_operator_operand {reading : Reading} {first second : Nat}
    (ready : reading.awaitsOperand = false)
    (fits : reading.combinator.all (· = combinator) = true) :
    [(first, Item.operator combinator), (second, Item.operand expr)].foldlM Reading.read reading =
      .ok ⟨reading.operands ++ [expr], some combinator, false⟩ := by
  simp [Reading.read, ready, fits, bind, Except.bind, pure, Except.pure]

theorem Derives.readFrom {phrase : Phrase} (derived : Derives tokens phrase) :
    phrase.ReadFrom tokens := by
  induction derived with
  | lone _ operandIH =>
      intro position group enclosing rest
      obtain ⟨next, _, compiled, place, rfl⟩ := operandIH position group enclosing rest
      exact ⟨next, _, compiled, fun _ => rfl⟩
  | @joined tokens continued first combinator others _ _ firstIH othersIH =>
      intro position group enclosing rest
      obtain ⟨middle, _, firstCompiled, place, rfl⟩ :=
        firstIH position group enclosing (continued ++ rest)
      obtain ⟨next, items, othersCompiled, read⟩ :=
        othersIH middle ([(place, .operand first)] ++ group) enclosing rest
      refine ⟨next, items ++ [(place, .operand first)], ?_, ?_⟩
      · rw [List.append_assoc, firstCompiled, othersCompiled, List.append_assoc]
      · intro finish
        have started : [(place, Item.operand first)].foldlM Reading.read {} =
            .ok ⟨[first], none, false⟩ := rfl
        rw [reduce, List.reverse_append, List.reverse_singleton, List.foldlM_append, started]
        change (items.reverse.foldlM Reading.read _ >>= _) = _
        rw [read ⟨[first], none, false⟩ rfl rfl]
        rfl
  | atom atom =>
      intro position group enclosing rest
      exact ⟨position + 1, [(position, .operand (.atom atom))], rfl, position, rfl⟩
  | @bracketed tokens expr _ predicateIH =>
      intro position group enclosing rest
      obtain ⟨next, items, compiled, reduced⟩ :=
        predicateIH (position + 1) [] (group :: enclosing) (.closing :: rest)
      refine ⟨next + 1, [(next, .operand expr)], ?_, next, rfl⟩
      rw [List.append_nil] at compiled
      calc compileFrom position group enclosing (.opening :: tokens ++ [.closing] ++ rest)
          = compileFrom (position + 1) [] (group :: enclosing) (tokens ++ .closing :: rest) := by
            rw [List.append_assoc]
            rfl
        _ = compileFrom next items (group :: enclosing) (.closing :: rest) := compiled
        _ = compileFrom (next + 1) ((next, .operand expr) :: group) enclosing rest := by
            rw [compileFrom, reduced next]
            rfl
  | @last tokens expr combinator _ operandIH =>
      intro position group enclosing rest
      obtain ⟨next, _, compiled, place, rfl⟩ :=
        operandIH (position + 1) ((position, .operator combinator) :: group) enclosing rest
      refine ⟨next, [(place, .operand expr), (position, .operator combinator)], compiled, ?_⟩
      intro reading ready fits
      exact foldlM_read_operator_operand ready fits
  | @more tokens continued expr combinator operands _ _ operandIH continuedIH =>
      intro position group enclosing rest
      obtain ⟨middle, _, compiled, place, rfl⟩ :=
        operandIH (position + 1) ((position, .operator combinator) :: group) enclosing
          (continued ++ rest)
      obtain ⟨next, items, continuedCompiled, read⟩ :=
        continuedIH middle ((place, .operand expr) :: (position, .operator combinator) :: group)
          enclosing rest
      refine ⟨next, items ++ [(place, .operand expr), (position, .operator combinator)], ?_, ?_⟩
      · rw [List.append_assoc, List.cons_append, compileFrom, compiled, List.singleton_append,
          continuedCompiled, List.append_assoc]
        rfl
      · intro reading ready fits
        rw [List.reverse_append, List.foldlM_append]
        change (List.foldlM _ _ [_, _] >>= _) = _
        rw [foldlM_read_operator_operand ready fits]
        change items.reverse.foldlM Reading.read _ = _
        rw [read ⟨reading.operands ++ [expr], some combinator, false⟩ rfl (by simp)]
        rw [List.append_assoc, List.singleton_append]

theorem derives_of_compile (compiled : compile tokens = .ok expr) :
    Derives tokens (.predicate expr) :=
  derives_of_compileFrom .outermost .nil compiled

theorem Derives.compile (derived : Derives tokens (.predicate expr)) :
    compile tokens = .ok expr := by
  obtain ⟨next, items, compiled, reduced⟩ := derived.readFrom 0 [] [] []
  rw [List.append_nil, List.append_nil] at compiled
  rw [Predicate.compile, compiled, compileFrom]
  exact reduced next

/-- The reduction accepts exactly the grammar, and returns the tree of the
derivation. -/
theorem compile_eq_ok_iff_derives (tokens : List Token) (expr : Expr) :
    compile tokens = .ok expr ↔ Derives tokens (.predicate expr) :=
  ⟨derives_of_compile, Derives.compile⟩

end TenantGuard.Predicate
