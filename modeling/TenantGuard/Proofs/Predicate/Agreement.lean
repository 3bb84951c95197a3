import TenantGuard.Proofs.Predicate.Expressible

/-!
# The structural checks and the reduction agree

Three scanners go over the tokens of a predicate, and each keeps track of the open brackets
in its own way: the check of order counts them, the check of combinators has a combinator for
each of them, and the reduction the items that were read in them.  The main statement is that
what the two checks let through fails in the reduction only for what they do not look at, and
that they let through what the reduction accepts unless brackets stand side by side.
-/

namespace TenantGuard.Predicate

/-! ## What the checks leave to the reduction -/

/-- The checks leave it to the reduction to find a bracket that stays open, a combinator that
is missing and one that has no operand. -/
def CompileError.Late : CompileError → Prop
  | .unclosed _ | .missingOperator _ | .danglingOperator _ => True
  | .unmatchedClosing _ | .emptyGroup _ | .mixedOperators _ => False

/-- A reduction that meets the condition, or fails for a cause that was left to it. -/
def Promises {α : Type} (holds : α → Prop) : Except CompileError α → Prop
  | .ok value => holds value
  | .error cause => cause.Late

theorem Promises.bind {α β : Type} {holds : α → Prop} {holdsNext : β → Prop}
    {result : Except CompileError α} {next : α → Except CompileError β}
    (promises : Promises holds result)
    (goesOn : ∀ value, holds value → Promises holdsNext (next value)) :
    Promises holdsNext (result >>= next) := by
  cases result with
  | ok value => exact goesOn value promises
  | error cause => exact promises

/-- The combinators among the items of a group are the one that the check has seen in it. -/
def Agrees (group : Option Combinator) (items : List (Nat × Item)) : Prop :=
  ∀ position combinator, (position, .operator combinator) ∈ items → group = some combinator

section

variable {group : Option Combinator} {items : List (Nat × Item)} {position : Nat}

theorem agrees_nil : Agrees group [] := by
  simp [Agrees]

theorem Agrees.operand (agrees : Agrees group items) (expr : Expr) :
    Agrees group ((position, .operand expr) :: items) := by
  intro other combinator listed
  cases listed with
  | tail _ listed => exact agrees other combinator listed

/-- A combinator that the check gets over agrees with those before it. -/
theorem Agrees.operator (agrees : Agrees group items) {combinator : Combinator}
    (same : group.all (· = combinator)) :
    Agrees (some combinator) ((position, .operator combinator) :: items) := by
  intro other found listed
  cases listed with
  | head => rfl
  | tail _ listed =>
      rw [agrees other found listed, Option.all_some, decide_eq_true_eq] at same
      rw [same]

namespace Reading

/-- A reading of items that agree with the check. -/
structure Fits (group : Option Combinator) (reading : Reading) : Prop where
  combinator : ∀ combinator, reading.combinator = some combinator → group = some combinator
  begun : reading.awaitsOperand = false → reading.operands ≠ []

/-- Whatever item is read, the reading has an operand afterwards. -/
theorem Fits.read {reading : Reading} (fits : reading.Fits group) {item : Item}
    (agrees : ∀ combinator, item = .operator combinator → group = some combinator) :
    Promises (fun next => next.Fits group ∧ next.operands ≠ [])
      (reading.read (position, item)) := by
  cases item with
  | operand expr =>
      rw [Reading.read]
      split
      · exact ⟨⟨fits.combinator, fun _ => by simp⟩, by simp⟩
      · exact trivial
  | operator found =>
      rw [Reading.read]
      split
      · exact trivial
      next begun =>
        have operands := fits.begun (by simpa using begun)
        split
        · refine ⟨⟨?_, fun _ => operands⟩, operands⟩
          intro combinator isFound
          cases isFound
          exact agrees found rfl
        next mixed =>
          apply absurd _ mixed
          rw [Option.all_eq_true]
          intro combinator before
          have same := (fits.combinator combinator before).symm.trans (agrees found rfl)
          simpa using same

/-- So do all of them together, if there is an item at all. -/
theorem Fits.foldlM {reading : Reading} (fits : reading.Fits group) (agrees : Agrees group items)
    (some : items ≠ [] ∨ reading.operands ≠ []) :
    Promises (fun next => next.operands ≠ []) (items.foldlM Reading.read reading) := by
  induction items generalizing reading with
  | nil => exact some.resolve_left (fun none => none rfl)
  | cons entry items ih =>
      obtain ⟨position, item⟩ := entry
      rw [List.foldlM_cons]
      apply Promises.bind (fits.read _)
      · rintro next ⟨nextFits, operands⟩
        apply ih nextFits _ (.inr operands)
        exact fun other combinator listed =>
          agrees other combinator (List.mem_cons_of_mem _ listed)
      · rintro combinator rfl
        exact agrees position combinator List.mem_cons_self

end Reading

/-- A group with items that agree with the check is neither empty nor mixed. -/
theorem Agrees.reduce (agrees : Agrees group items) (nonempty : items ≠ []) :
    Promises (fun _ => True) (reduce items.reverse position) := by
  have fits : Reading.Fits group {} := ⟨by simp, by simp⟩
  have agreesReversed : Agrees group items.reverse :=
    fun other combinator listed => agrees other combinator (List.mem_reverse.mp listed)
  apply (fits.foldlM agreesReversed (.inl (by simpa using nonempty))).bind
  intro reading operands
  rw [Reading.finish]
  split
  next none => exact absurd none operands
  · split
    · exact trivial
    · split
      · exact trivial
      · exact trivial

end

/-! ## From the checks to the reduction -/

/-- What both checks let through, whatever they have read before, the reduction does not
reject for what they have looked at.  A group without items was opened by the token before,
unless nothing has been read at all. -/
theorem compileFrom_of_checked {tokens : List Token} {position depth : Nat}
    {previous : Option TokenKind} {group : Option Combinator}
    {enclosing : List (Option Combinator)} {items : List (Nat × Item)}
    {outer : List (List (Nat × Item))}
    (inOrder : checkOrderFrom position depth previous tokens = .ok ())
    (uniform : checkUniformFrom position group enclosing tokens = .ok ())
    (nested : outer.length = depth) (agrees : Agrees group items)
    (agreesAround : List.Forall₂ Agrees enclosing outer)
    (opened : items = [] → outer ≠ [] → previous = some .parenthesis)
    (started : items = [] → outer = [] → tokens ≠ []) :
    Promises (fun _ => True) (compileFrom position items outer tokens) := by
  induction tokens generalizing position depth previous group enclosing items outer with
  | nil =>
      cases outer with
      | nil => exact agrees.reduce fun none => started none rfl rfl
      | cons => exact trivial
  | cons token rest ih =>
      rw [checkOrderFrom.eq_def] at inOrder
      dsimp only at inOrder
      split at inOrder
      · cases inOrder
      next matched =>
      split at inOrder
      · cases inOrder
      next unlike =>
      cases token with
      | opening =>
          exact ih inOrder uniform (congrArg (· + 1) nested) agrees_nil (.cons agrees agreesAround)
            (fun _ _ => rfl) (fun _ none => absurd none (List.cons_ne_nil _ _))
      | closing =>
          cases agreesAround with
          | nil => exact absurd ⟨rfl, nested.symm⟩ matched
          | cons agreesOuter agreesAround =>
              have nonempty : items ≠ [] := fun none =>
                unlike (opened none (List.cons_ne_nil _ _))
              apply (agrees.reduce nonempty).bind
              intro expr _
              rw [List.length_cons] at nested
              rw [← nested, Nat.add_sub_cancel] at inOrder
              exact ih inOrder uniform rfl (agreesOuter.operand expr) agreesAround
                (fun none => absurd none (List.cons_ne_nil _ _))
                (fun none => absurd none (List.cons_ne_nil _ _))
      | operator found =>
          dsimp only at inOrder
          split at inOrder
          · cases inOrder
          · have same : group.all (· = found) := by
              cases group with
              | none => rfl
              | some expected =>
                  rw [checkUniformFrom] at uniform
                  split at uniform
                  next same => simpa using same
                  · cases uniform
            rw [checkUniformFrom_operator same] at uniform
            exact ih inOrder uniform nested (agrees.operator same) agreesAround
              (fun none => absurd none (List.cons_ne_nil _ _))
              (fun none => absurd none (List.cons_ne_nil _ _))
      | atom name =>
          exact ih inOrder uniform nested (agrees.operand _) agreesAround
            (fun none => absurd none (List.cons_ne_nil _ _))
            (fun none => absurd none (List.cons_ne_nil _ _))

/-- No text is read as no tokens. -/
theorem ne_nil_of_tokenize {source : String} {tokens : List Token}
    (tokenized : tokenize source = .ok tokens) : tokens ≠ [] :=
  (tokenize_eq_ok_iff.mp tokenized).1

/-! ## From the reduction to the checks -/

/-- No two brackets stand side by side. -/
def BracketsApart (tokens : List Token) : Prop :=
  tokens.IsChain fun first second => first.kind = .parenthesis → second.kind ≠ .parenthesis

instance (tokens : List Token) : Decidable (BracketsApart tokens) :=
  inferInstanceAs (Decidable (List.IsChain _ _))

/-- The grammar has no two operands and no two combinators side by side. -/
theorem Derives.reads {tokens : List Token} {phrase : Phrase} (derived : Derives tokens phrase)
    (apart : BracketsApart tokens) : Reads tokens phrase := by
  induction derived with
  | lone _ operandIH =>
      have operand := operandIH apart
      exact ⟨.lone operand.derived, operand.alternates⟩
  | joined _ _ firstIH othersIH =>
      exact (firstIH apart.left_of_append).joined (othersIH apart.right_of_append)
  | atom name => exact ⟨.atom name, .singleton _⟩
  | bracketed derived predicateIH =>
      have nonempty := ne_nil_of_first derived.edged.1
      obtain ⟨opened, _, beforeClosing⟩ := List.isChain_append.mp apart
      obtain ⟨behindOpening, inner⟩ := List.isChain_cons.mp opened
      apply (predicateIH inner).bracketed
      · exact fun first isFirst => behindOpening first isFirst rfl
      · intro last isLast isBracket
        rw [← List.getLast?_cons_of_ne_nil nonempty] at isLast
        exact beforeClosing last isLast .closing rfl isBracket rfl
  | last _ operandIH => exact (operandIH apart.tail).last
  | more _ _ operandIH othersIH =>
      exact (operandIH apart.left_of_append.tail).more (othersIH apart.right_of_append)

/-! ## Agreement -/

/-- The checks and the reduction agree.  The reduction of a text that passed the checks
succeeds, or a bracket stays open, a combinator is missing or a combinator has no operand; and
every token list that is reduced to a tree passes the checks, unless brackets stand side by
side. -/
theorem checks_agree_with_reduction :
    (∀ source predicate, parse source = .ok predicate →
      (∃ expr, predicate.expr = .ok expr) ∨
        (∃ groups, predicate.expr = .error (.unclosed groups)) ∨
        (∃ position, predicate.expr = .error (.missingOperator position)) ∨
        ∃ position, predicate.expr = .error (.danglingOperator position)) ∧
    ∀ tokens expr, compile tokens = .ok expr → BracketsApart tokens →
      checkOrder tokens = .ok () ∧ checkUniform tokens = .ok () := by
  constructor
  · intro source predicate parsed
    obtain ⟨tokens, tokenized, checked⟩ := Except.bind_eq_ok.mp parsed
    obtain ⟨_, inOrder, continued⟩ := Except.bind_eq_ok.mp checked
    obtain ⟨_, uniform, returned⟩ := Except.bind_eq_ok.mp continued
    cases returned
    have promises : Promises (fun _ => True) (compile tokens) :=
      compileFrom_of_checked inOrder uniform rfl agrees_nil .nil
        (fun _ inside => absurd rfl inside) (fun _ _ => ne_nil_of_tokenize tokenized)
    rw [expr]
    cases compiled : compile tokens with
    | ok expr => exact .inl ⟨expr, rfl⟩
    | error cause =>
        rw [compiled] at promises
        cases cause with
        | unclosed groups => exact .inr (.inl ⟨groups, rfl⟩)
        | missingOperator position => exact .inr (.inr (.inl ⟨position, rfl⟩))
        | danglingOperator position => exact .inr (.inr (.inr ⟨position, rfl⟩))
        | unmatchedClosing | emptyGroup | mixedOperators => cases promises
  · intro tokens expr compiled apart
    obtain ⟨derived, alternates⟩ := (derives_of_compile compiled).reads apart
    exact ⟨derived.checkOrder alternates, derived.checkUniform⟩

/-- Two operands side by side pass the checks if one of them stands in brackets. -/
theorem checks_agree_with_reduction_side_by_side :
    let joined : List Token :=
      [.opening, .atom .unassigned, .operator .all, .atom .systemTenant, .closing,
        .operator .any, .atom .selectedTenant]
    (∃ predicate, parse "( false AND system_company ) selected_company" = .ok predicate ∧
      ∃ position, predicate.expr = .error (.missingOperator position)) ∧
    (∃ expr, compile joined = .ok expr) ∧ BracketsApart joined ∧
      checkOrder joined = .ok () ∧ checkUniform joined = .ok () := by
  intro joined
  have parsed : parse "( false AND system_company ) selected_company" =
      .ok { source := "( false AND system_company ) selected_company"
            tokens := [.opening, .atom .unassigned, .operator .all, .atom .systemTenant,
              .closing, .atom .selectedTenant] } := by
    rfl
  have apart : BracketsApart joined := by decide
  refine ⟨⟨_, parsed, ?_⟩, ⟨_, rfl⟩, apart, checks_agree_with_reduction.2 joined _ rfl apart⟩
  rcases checks_agree_with_reduction.1 _ _ parsed with
    ⟨_, accepted⟩ | ⟨_, unclosed⟩ | missing | ⟨_, dangling⟩
  · cases accepted
  · cases unclosed
  · exact missing
  · cases dangling

end TenantGuard.Predicate
