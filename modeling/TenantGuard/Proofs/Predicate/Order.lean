import Mathlib.Data.List.Chain
import TenantGuard.Proofs.Predicate.Brackets
import TenantGuard.Proofs.Predicate.Reporting

/-!
# The rules of order

The check of order goes over the tokens once and carries along its position, how many
brackets are open and the kind of the token before.  Its three rules can be said without any
of that: of the tokens up to a position, of two neighbours, and of the two ends.  The main
statement is that the check lets through exactly the token lists that keep the rules, and
that it otherwise reports the first position where one of them is broken.
-/

namespace TenantGuard.Predicate

def Alternates (tokens : List Token) : Prop :=
  tokens.IsChain fun first second => first.kind ≠ second.kind

/-- The rules of order: no bracket is closed before it is opened, no two neighbours are of one
kind and no operator stands at either end. -/
structure InOrder (tokens : List Token) : Prop where
  closes : NeverOvercloses tokens
  alternates : Alternates tokens
  first : ∀ first ∈ tokens.head?, first.kind ≠ .operator
  last : ∀ last ∈ tokens.getLast?, last.kind ≠ .operator

/-- The faults of order at a position. -/
inductive BreaksOrder (tokens : List Token) (position : Nat) : GrammarError → Prop where
  /-- The tokens up to the position close more brackets than they open. -/
  | overcloses (more : (tokens.take (position + 1)).count .opening <
      (tokens.take (position + 1)).count .closing) :
      BreaksOrder tokens position (.unmatchedClosing position)
  /-- The token before is of the same kind. -/
  | repeats {kind : TokenKind} (inside : 0 < position)
      (before : tokens[position - 1]?.map Token.kind = some kind)
      (here : tokens[position]?.map Token.kind = some kind) :
      BreaksOrder tokens position (.adjacentKind kind position)
  /-- An operator is the first token or the last one. -/
  | operator {combinator : Combinator} (here : tokens[position]? = some (.operator combinator))
      (atEdge : position = 0 ∨ position + 1 = tokens.length) :
      BreaksOrder tokens position (.operatorAtEdge combinator position)

variable {tokens rest : List Token} {position depth : Nat} {previous : Option TokenKind}
variable {token : Token}

/-- At one position there is at most one fault of each precedence. -/
theorem BreaksOrder.unique {fault other : GrammarError} (breaks : BreaksOrder tokens position fault)
    (breaksToo : BreaksOrder tokens position other)
    (same : fault.precedence = other.precedence) : fault = other := by
  cases breaks with
  | overcloses =>
      cases breaksToo with
      | overcloses => rfl
      | repeats | operator => cases same
  | repeats _ _ here =>
      cases breaksToo with
      | repeats _ _ hereToo => rw [Option.some.inj (here.symm.trans hereToo)]
      | overcloses | operator => cases same
  | operator here =>
      cases breaksToo with
      | operator hereToo => cases Option.some.inj (here.symm.trans hereToo); rfl
      | overcloses | repeats => cases same

theorem neverOvercloses_iff : NeverOvercloses tokens ↔ ∀ position,
    (tokens.take (position + 1)).count .closing ≤ (tokens.take (position + 1)).count .opening := by
  constructor
  · exact fun never position => never _ (List.take_prefix _ tokens)
  · intro never before isPrefix
    rw [List.prefix_iff_eq_take.mp isPrefix]
    cases before.length with
    | zero => simp
    | succ position => exact never position

theorem alternates_iff : Alternates tokens ↔ ∀ position kind,
    tokens[position]?.map Token.kind = some kind →
      tokens[position + 1]?.map Token.kind ≠ some kind := by
  rw [Alternates, List.isChain_iff_getElem]
  constructor
  · intro unlike position kind first second
    obtain ⟨token, isSecond, rfl⟩ := Option.map_eq_some_iff.mp second
    obtain ⟨inside, rfl⟩ := List.getElem?_eq_some_iff.mp isSecond
    rw [List.getElem?_eq_getElem (Nat.lt_of_succ_lt inside)] at first
    exact unlike position inside (Option.some.inj first)
  · intro unlike position inside same
    apply unlike position tokens[position].kind
    · rw [List.getElem?_eq_getElem (Nat.lt_of_succ_lt inside), Option.map_some]
    · rw [List.getElem?_eq_getElem inside, Option.map_some, same]

/-- The rules are kept exactly if none of them is broken anywhere. -/
theorem inOrder_iff :
    InOrder tokens ↔ ∀ position fault, ¬ BreaksOrder tokens position fault := by
  constructor
  · rintro ⟨closes, alternates, first, last⟩ position _ breaks
    cases breaks with
    | overcloses more => exact Nat.not_lt.mpr (neverOvercloses_iff.mp closes position) more
    | @repeats kind inside before here =>
        apply alternates_iff.mp alternates (position - 1) kind before
        rwa [Nat.sub_add_cancel inside]
    | @operator combinator here atEdge =>
        rcases atEdge with rfl | atEnd
        · exact first (.operator combinator) (by rw [List.head?_eq_getElem?, here]; rfl) rfl
        · refine last (.operator combinator) ?_ rfl
          rw [List.getLast?_eq_getElem?, ← atEnd, Nat.add_sub_cancel, here]
          rfl
  · intro fine
    have notOperator : ∀ position token, tokens[position]? = some token →
        position = 0 ∨ position + 1 = tokens.length → token.kind ≠ .operator := by
      intro position token here atEdge isOperator
      cases token with
      | operator combinator => exact fine position _ (.operator here atEdge)
      | opening | closing | atom => cases isOperator
    refine ⟨neverOvercloses_iff.mpr fun position => ?_, alternates_iff.mpr fun position => ?_,
      fun first isFirst => ?_, fun last isLast => ?_⟩
    · exact Nat.not_lt.mp fun more => fine position _ (.overcloses more)
    · exact fun kind before here =>
        fine (position + 1) _ (.repeats (Nat.succ_pos position) before here)
    · rw [List.head?_eq_getElem?] at isFirst
      exact notOperator 0 first isFirst (.inl rfl)
    · rw [List.getLast?_eq_getElem?] at isLast
      have inside := (List.getElem?_eq_some_iff.mp isLast).1
      exact notOperator (tokens.length - 1) last isLast (.inr (by omega))

/-! ## What is carried along -/

/-- What the check of order knows of the tokens before its position. -/
structure ReadOrder (tokens : List Token) (position depth : Nat) (previous : Option TokenKind) :
    Prop where
  depth : (tokens.take position).count .closing + depth = (tokens.take position).count .opening
  previous : ∀ kind, previous = some kind ↔
    0 < position ∧ tokens[position - 1]?.map Token.kind = some kind

namespace ReadOrder

theorem start : ReadOrder tokens 0 0 none := ⟨by simp, by simp⟩

/-- What is carried along is enough to see which rules a token breaks. -/
theorem breaks_iff (read : ReadOrder tokens position depth previous)
    (here : tokens[position]? = some token) {fault : GrammarError} :
    BreaksOrder tokens position fault ↔
      (fault = .unmatchedClosing position ∧ token = .closing ∧ depth = 0) ∨
      (fault = .adjacentKind token.kind position ∧ previous = some token.kind) ∨
      ∃ combinator, fault = .operatorAtEdge combinator position ∧
        token = .operator combinator ∧ (position = 0 ∨ position + 1 = tokens.length) := by
  have balance := read.depth
  constructor
  · rintro (more | ⟨inside, before, isHere⟩ | ⟨isHere, atEdge⟩)
    · rw [List.take_add_one, here, Option.toList_some, List.count_append, List.count_append] at more
      cases token with
      | closing => exact .inl ⟨rfl, rfl, by simp at more; omega⟩
      | opening | operator | atom => simp at more; omega
    · rw [here, Option.map_some, Option.some.injEq] at isHere
      subst isHere
      exact .inr (.inl ⟨rfl, (read.previous _).mpr ⟨inside, before⟩⟩)
    · rw [here, Option.some.injEq] at isHere
      exact .inr (.inr ⟨_, rfl, isHere, atEdge⟩)
  · rintro (⟨rfl, rfl, rfl⟩ | ⟨rfl, same⟩ | ⟨combinator, rfl, rfl, atEdge⟩)
    · apply BreaksOrder.overcloses
      rw [List.take_add_one, here, Option.toList_some, List.count_append, List.count_append]
      simp
      omega
    · obtain ⟨inside, before⟩ := (read.previous _).mp same
      exact .repeats inside before (by rw [here, Option.map_some])
    · exact .operator here atEdge

/-- A closing bracket without an open one is reported whatever else is wrong with it. -/
theorem foremost_unmatched (read : ReadOrder tokens position depth previous)
    (here : tokens[position]? = some token) (unmatched : token = .closing ∧ depth = 0) :
    Foremost (BreaksOrder tokens) position (.unmatchedClosing position) := by
  refine ⟨(read.breaks_iff here).mpr (.inl ⟨rfl, unmatched⟩), fun other breaks => ?_⟩
  rcases (read.breaks_iff here).mp breaks with ⟨rfl, _⟩ | ⟨rfl, _⟩ | ⟨_, rfl, _⟩ <;>
    simp [GrammarError.precedence]

/-- A repeated kind is reported unless a bracket is unmatched. -/
theorem foremost_repeated (read : ReadOrder tokens position depth previous)
    (here : tokens[position]? = some token) (matched : ¬ (token = .closing ∧ depth = 0))
    (same : previous = some token.kind) :
    Foremost (BreaksOrder tokens) position (.adjacentKind token.kind position) := by
  refine ⟨(read.breaks_iff here).mpr (.inr (.inl ⟨rfl, same⟩)), fun other breaks => ?_⟩
  rcases (read.breaks_iff here).mp breaks with ⟨rfl, unmatched⟩ | ⟨rfl, _⟩ | ⟨_, rfl, _⟩
  · exact absurd unmatched matched
  · exact Nat.le_refl _
  · simp [GrammarError.precedence]

theorem foremost_operator {combinator : Combinator}
    (read : ReadOrder tokens position depth previous)
    (here : tokens[position]? = some (.operator combinator)) (unlike : previous ≠ some .operator)
    (atEdge : position = 0 ∨ position + 1 = tokens.length) :
    Foremost (BreaksOrder tokens) position (.operatorAtEdge combinator position) := by
  refine ⟨(read.breaks_iff here).mpr (.inr (.inr ⟨combinator, rfl, rfl, atEdge⟩)),
    fun other breaks => ?_⟩
  rcases (read.breaks_iff here).mp breaks with ⟨_, unmatched, _⟩ | ⟨_, same⟩ | ⟨_, rfl, _⟩
  · cases unmatched
  · exact absurd same unlike
  · exact Nat.le_refl _

theorem fine (read : ReadOrder tokens position depth previous)
    (here : tokens[position]? = some token) (matched : ¬ (token = .closing ∧ depth = 0))
    (unlike : previous ≠ some token.kind)
    (inner : token.kind = .operator → ¬ (position = 0 ∨ position + 1 = tokens.length)) :
    ∀ fault, ¬ BreaksOrder tokens position fault := by
  intro fault breaks
  rcases (read.breaks_iff here).mp breaks with
    ⟨_, unmatched⟩ | ⟨_, same⟩ | ⟨combinator, _, rfl, atEdge⟩
  · exact matched unmatched
  · exact unlike same
  · exact inner rfl atEdge

/-- Behind a token, the brackets that are open have changed by that token. -/
theorem next (read : ReadOrder tokens position depth previous)
    (here : tokens[position]? = some token) {nextDepth : Nat}
    (balance : [token].count .closing + nextDepth = [token].count .opening + depth) :
    ReadOrder tokens (position + 1) nextDepth (some token.kind) := by
  constructor
  · have before := read.depth
    rw [List.take_add_one, here, Option.toList_some, List.count_append, List.count_append]
    omega
  · simp [here]

theorem fine_behind (read : ReadOrder tokens position depth previous)
    (atEnd : tokens.length ≤ position) {later : Nat} (notBefore : position ≤ later) :
    ∀ fault, ¬ BreaksOrder tokens later fault := by
  intro fault breaks
  have nothing : tokens[later]? = none := List.getElem?_eq_none (Nat.le_trans atEnd notBefore)
  cases breaks with
  | overcloses more =>
      have balance := read.depth
      rw [List.take_of_length_le atEnd] at balance
      rw [List.take_of_length_le (by omega)] at more
      omega
  | repeats _ _ here => simp [nothing] at here
  | operator here => simp [nothing] at here

/-- From each position on, the check reports the first fault. -/
theorem reports (read : ReadOrder tokens position depth previous)
    (ahead : tokens.drop position = rest) :
    ReportsFrom (BreaksOrder tokens) position (checkOrderFrom position depth previous rest) := by
  induction rest generalizing position depth previous with
  | nil => exact fun later => read.fine_behind (List.drop_eq_nil_iff.mp ahead)
  | cons token rest ih =>
      obtain ⟨here, behind⟩ := getElem?_of_drop ahead
      have atEnd : rest = [] ↔ position + 1 = tokens.length := by
        have inside := (List.getElem?_eq_some_iff.mp here).1
        rw [← behind, List.drop_eq_nil_iff]
        omega
      rw [checkOrderFrom.eq_def]
      dsimp only
      split
      next unmatched => exact .stopped (read.foremost_unmatched here unmatched)
      next matched =>
      split
      next same => exact .stopped (read.foremost_repeated here matched same)
      next unlike =>
      have passes := read.fine here matched unlike
      cases token with
      | opening =>
          exact .passed (passes (by simp [Token.kind]))
            (ih (read.next here (by simp; omega)) behind)
      | closing =>
          have positive : depth ≠ 0 := by simpa using matched
          exact .passed (passes (by simp [Token.kind]))
            (ih (read.next here (by simp; omega)) behind)
      | operator combinator =>
          simp only [atEnd]
          split
          next atEdge => exact .stopped (read.foremost_operator here unlike atEdge)
          next inner => exact .passed (passes fun _ => inner) (ih (read.next here (by simp)) behind)
      | atom => exact .passed (passes (by simp [Token.kind])) (ih (read.next here (by simp)) behind)

end ReadOrder

/-! ## What the check answers -/

theorem checkOrder_reports (tokens : List Token) :
    ReportsFrom (BreaksOrder tokens) 0 (checkOrder tokens) :=
  ReadOrder.start.reports List.drop_zero

/-- The check of order lets through exactly what keeps the rules. -/
theorem checkOrder_eq_ok_iff : checkOrder tokens = .ok () ↔ InOrder tokens := by
  rw [inOrder_iff, (checkOrder_reports tokens).eq_ok_iff]

/-- The check of order lets through exactly the token lists in which no prefix closes more
brackets than it opens, no two neighbours are of one kind and no operator stands at either end.
In any other list it reports the first position where a rule is broken: there an unmatched
bracket before a repeated kind, and that before an operator at an edge. -/
theorem checkOrder_exact (tokens : List Token) :
    (checkOrder tokens = .ok () ↔ InOrder tokens) ∧
      ∀ fault, checkOrder tokens = .error fault ↔
        ∃ position, Foremost (BreaksOrder tokens) position fault ∧
          ∀ earlier < position, ∀ other, ¬ BreaksOrder tokens earlier other :=
  ⟨checkOrder_eq_ok_iff, fun _ => (checkOrder_reports tokens).eq_error_iff BreaksOrder.unique⟩

/-- The last bracket is unmatched, and of the kind of the one before as well. -/
example : checkOrder [.opening, .atom .unassigned, .closing, .closing] =
    .error (.unmatchedClosing 3) := rfl

/-- The last operator stands at the edge, and is of the kind of the one before as well. -/
example : checkOrder [.atom .unassigned, .operator .all, .operator .any] =
    .error (.adjacentKind .operator 2) := rfl

end TenantGuard.Predicate
