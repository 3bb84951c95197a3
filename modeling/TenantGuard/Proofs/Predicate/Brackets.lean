import Mathlib.Data.List.Induction
import Mathlib.Data.List.Infix
import TenantGuard.Predicate.Token

/-!
# Brackets that are open

A bracket is open behind some tokens as long as what stands behind it closes no more
brackets than it opens, however far one reads.  Seen like this, the open brackets are
determined by the tokens alone, and not by a stack that is kept while reading.  The main
statements say that they nevertheless behave as a stack: an opening bracket is put on top,
a closing one takes the top away, and other tokens leave them as they are.
-/

namespace TenantGuard.Predicate

/-- No prefix closes more brackets than it opens. -/
def NeverOvercloses (tokens : List Token) : Prop :=
  ∀ before, before <+: tokens → before.count .closing ≤ before.count .opening

instance (tokens : List Token) : Decidable (NeverOvercloses tokens) :=
  decidable_of_iff (∀ before ∈ tokens.inits, before.count .closing ≤ before.count .opening) (by
    simp [NeverOvercloses])

variable {tokens before others : List Token} {token : Token} {bracket inner : Nat}

namespace NeverOvercloses

theorem nil : NeverOvercloses [] := by
  intro before isPrefix
  simp [List.prefix_nil.mp isPrefix]

theorem whole (never : NeverOvercloses tokens) :
    tokens.count .closing ≤ tokens.count .opening :=
  never tokens (List.prefix_refl tokens)

theorem of_prefix (never : NeverOvercloses tokens) (isPrefix : before <+: tokens) :
    NeverOvercloses before :=
  fun shorter isShorter => never shorter (isShorter.trans isPrefix)

theorem snoc_iff :
    NeverOvercloses (tokens ++ [token]) ↔ NeverOvercloses tokens ∧
      (tokens ++ [token]).count .closing ≤ (tokens ++ [token]).count .opening := by
  constructor
  · exact fun never => ⟨never.of_prefix (List.prefix_append tokens [token]), never.whole⟩
  · rintro ⟨never, last⟩ before isPrefix
    rcases List.prefix_concat_iff.mp isPrefix with rfl | shorter
    · exact last
    · exact never before shorter

theorem append (never : NeverOvercloses tokens) (neverBehind : NeverOvercloses others) :
    NeverOvercloses (tokens ++ others) := by
  intro before isPrefix
  rw [List.prefix_iff_eq_take.mp isPrefix, List.take_append, List.count_append, List.count_append]
  exact Nat.add_le_add (never _ (List.take_prefix ..)) (neverBehind _ (List.take_prefix ..))

end NeverOvercloses

/-- Every bracket is closed again, and none is closed before it is opened. -/
structure Balanced (tokens : List Token) : Prop where
  never : NeverOvercloses tokens
  settled : tokens.count .closing = tokens.count .opening

namespace Balanced

theorem of_kind (other : token.kind ≠ .parenthesis) : Balanced [token] := by
  cases token with
  | opening | closing => exact absurd rfl other
  | operator | atom =>
      exact ⟨(@NeverOvercloses.snoc_iff [] _).mpr ⟨.nil, by simp⟩, by simp⟩

theorem append (balanced : Balanced tokens) (balancedBehind : Balanced others) :
    Balanced (tokens ++ others) :=
  ⟨balanced.never.append balancedBehind.never, by
    rw [List.count_append, List.count_append, balanced.settled, balancedBehind.settled]⟩

theorem bracketed (balanced : Balanced tokens) : Balanced (.opening :: tokens ++ [.closing]) := by
  have opened : NeverOvercloses [.opening] := by decide
  exact ⟨NeverOvercloses.snoc_iff.mpr ⟨opened.append balanced.never, by simp [balanced.settled]⟩,
    by simp [balanced.settled]⟩

end Balanced

/-! ## The open brackets -/

/-- The bracket at this position is open behind the tokens. -/
def StaysOpen (tokens : List Token) (bracket : Nat) : Prop :=
  tokens[bracket]? = some .opening ∧ NeverOvercloses (tokens.drop (bracket + 1))

instance (tokens : List Token) (bracket : Nat) : Decidable (StaysOpen tokens bracket) :=
  inferInstanceAs (Decidable (_ ∧ _))

/-- The positions of the brackets that are open behind the tokens, the innermost first. -/
def openBrackets (tokens : List Token) : List Nat :=
  (List.range tokens.length).reverse.filter (StaysOpen tokens)

theorem StaysOpen.lt_length (isOpen : StaysOpen tokens bracket) : bracket < tokens.length :=
  (List.getElem?_eq_some_iff.mp isOpen.1).1

@[simp] theorem mem_openBrackets : bracket ∈ openBrackets tokens ↔ StaysOpen tokens bracket := by
  simpa [openBrackets] using StaysOpen.lt_length

/-- Brackets further inside stand further behind. -/
theorem openBrackets_descending (tokens : List Token) :
    (openBrackets tokens).Pairwise (· > ·) := by
  apply List.Pairwise.filter
  rw [List.pairwise_reverse]
  exact List.pairwise_lt_range

/-- What stands behind a bracket that is followed by another open one leaves a bracket open. -/
theorem StaysOpen.count_lt (isOpen : StaysOpen tokens bracket) (innerOpen : StaysOpen tokens inner)
    (further : bracket < inner) :
    (tokens.drop (bracket + 1)).count .closing < (tokens.drop (bracket + 1)).count .opening := by
  obtain ⟨inside, isBracket⟩ := List.getElem?_eq_some_iff.mp innerOpen.1
  have split : tokens.drop (bracket + 1) =
      (tokens.drop (bracket + 1)).take (inner - (bracket + 1)) ++
        .opening :: tokens.drop (inner + 1) := by
    conv_lhs => rw [← List.take_append_drop (inner - (bracket + 1)) (tokens.drop (bracket + 1))]
    rw [List.drop_drop, Nat.add_sub_cancel' further, List.drop_eq_getElem_cons inside, isBracket]
  have between := isOpen.2 _ (List.take_prefix (inner - (bracket + 1)) _)
  have behind := innerOpen.2.whole
  rw [split, List.count_append, List.count_append, List.count_cons_self,
    List.count_cons_of_ne (by simp)]
  omega

/-- Behind one more token a bracket stays open if what follows it does not overclose. -/
theorem staysOpen_snoc (inside : bracket < tokens.length) :
    StaysOpen (tokens ++ [token]) bracket ↔ StaysOpen tokens bracket ∧
      (tokens.drop (bracket + 1) ++ [token]).count .closing ≤
        (tokens.drop (bracket + 1) ++ [token]).count .opening := by
  rw [StaysOpen, StaysOpen, List.getElem?_append_left inside,
    List.drop_append_of_le_length inside, NeverOvercloses.snoc_iff, and_assoc]

theorem staysOpen_length : StaysOpen (tokens ++ [token]) tokens.length ↔ token = .opening := by
  simp [StaysOpen, NeverOvercloses.nil]

/-- Where more brackets are opened than closed, one of them is open, and any smaller number of
brackets can be asked to be left open behind it. -/
theorem exists_staysOpen (surplus : Nat)
    (more : tokens.count .closing + surplus < tokens.count .opening) :
    ∃ bracket, StaysOpen tokens bracket ∧
      (tokens.drop (bracket + 1)).count .closing + surplus =
        (tokens.drop (bracket + 1)).count .opening := by
  -- Read backwards: a closing bracket at the end asks for one more open bracket before it.
  induction tokens using List.reverseRecOn generalizing surplus with
  | nil => simp at more
  | append_singleton tokens token ih =>
      have keep : ∀ wanted, tokens.count .closing + wanted < tokens.count .opening →
          [token].count .closing + surplus = [token].count .opening + wanted →
          ∃ bracket, StaysOpen (tokens ++ [token]) bracket ∧
            ((tokens ++ [token]).drop (bracket + 1)).count .closing + surplus =
              ((tokens ++ [token]).drop (bracket + 1)).count .opening := by
        intro wanted moreBefore balance
        obtain ⟨bracket, isOpen, left⟩ := ih wanted moreBefore
        have inside : bracket + 1 ≤ tokens.length := isOpen.lt_length
        refine ⟨bracket, (staysOpen_snoc inside).mpr ⟨isOpen, ?_⟩, ?_⟩
        · rw [List.count_append, List.count_append]
          omega
        · rw [List.drop_append_of_le_length inside, List.count_append, List.count_append]
          omega
      rw [List.count_append, List.count_append] at more
      cases token with
      | opening =>
          cases surplus with
          | zero => exact ⟨tokens.length, staysOpen_length.mpr rfl, by simp⟩
          | succ surplus => exact keep surplus (by simp at more; omega) (by simp; omega)
      | closing => exact keep (surplus + 1) (by simp at more; omega) (by simp; omega)
      | operator | atom => exact keep surplus (by simpa using more) (by simp)

/-- Of the open brackets, all but the innermost have an open one behind them. -/
theorem StaysOpen.exists_inner_iff (isOpen : StaysOpen tokens bracket) :
    (∃ inner, StaysOpen tokens inner ∧ bracket < inner) ↔
      (tokens.drop (bracket + 1)).count .closing < (tokens.drop (bracket + 1)).count .opening := by
  constructor
  · rintro ⟨inner, innerOpen, further⟩
    exact isOpen.count_lt innerOpen further
  · intro more
    obtain ⟨offset, innerOpen, _⟩ := exists_staysOpen 0 more
    refine ⟨bracket + 1 + offset, ⟨?_, ?_⟩, by omega⟩
    · rw [← innerOpen.1, List.getElem?_drop]
    · have behind := innerOpen.2
      rwa [List.drop_drop] at behind

/-! ## The stack -/

/-- One more token leaves some of the open brackets open, and is one itself if it opens. -/
theorem openBrackets_snoc : openBrackets (tokens ++ [token]) =
    (if token = .opening then [tokens.length] else []) ++
      (openBrackets tokens).filter (StaysOpen (tokens ++ [token])) := by
  have still : (openBrackets tokens).filter (StaysOpen (tokens ++ [token])) =
      (List.range tokens.length).reverse.filter (StaysOpen (tokens ++ [token])) := by
    rw [openBrackets, List.filter_filter]
    apply List.filter_congr
    intro bracket inside
    have inside : bracket < tokens.length := by simpa using inside
    have before : StaysOpen (tokens ++ [token]) bracket → StaysOpen tokens bracket :=
      fun isOpen => ((staysOpen_snoc inside).mp isOpen).1
    simpa using before
  rw [still, openBrackets, List.length_append, List.length_singleton, List.range_succ,
    List.reverse_append, List.reverse_singleton, List.filter_append, List.filter_singleton]
  simp [staysOpen_length]

/-- An opening bracket is put on top. -/
theorem openBrackets_opening :
    openBrackets (tokens ++ [.opening]) = tokens.length :: openBrackets tokens := by
  rw [openBrackets_snoc, if_pos rfl, List.singleton_append, List.filter_eq_self.mpr]
  intro bracket listed
  have isOpen := mem_openBrackets.mp listed
  have left := isOpen.2.whole
  rw [decide_eq_true_eq, staysOpen_snoc isOpen.lt_length, List.count_append, List.count_append]
  exact ⟨isOpen, by simp; omega⟩

/-- A closing bracket takes the top away, if there is one. -/
theorem openBrackets_closing :
    openBrackets (tokens ++ [.closing]) = (openBrackets tokens).tail := by
  have stays : ∀ bracket ∈ openBrackets tokens, StaysOpen (tokens ++ [.closing]) bracket ↔
      ∃ inner ∈ openBrackets tokens, bracket < inner := by
    intro bracket listed
    have isOpen := mem_openBrackets.mp listed
    simp only [mem_openBrackets]
    rw [isOpen.exists_inner_iff, staysOpen_snoc isOpen.lt_length, and_iff_right isOpen,
      List.count_append, List.count_append]
    exact Iff.rfl
  rw [openBrackets_snoc, if_neg (by simp), List.nil_append]
  have descending := openBrackets_descending tokens
  cases listed : openBrackets tokens with
  | nil => rfl
  | cons innermost around =>
      rw [listed] at stays descending
      obtain ⟨last, _⟩ := List.pairwise_cons.mp descending
      rw [List.filter_cons_of_neg, List.filter_eq_self.mpr, List.tail_cons]
      · intro bracket isAround
        rw [decide_eq_true_eq, stays bracket (List.mem_cons_of_mem _ isAround)]
        exact ⟨innermost, List.mem_cons_self, last bracket isAround⟩
      · rw [decide_eq_true_eq, stays innermost List.mem_cons_self]
        rintro ⟨inner, isInner, further⟩
        rcases List.mem_cons.mp isInner with rfl | isAround
        · exact Nat.lt_irrefl _ further
        · exact Nat.lt_asymm further (last inner isAround)

/-- Other tokens leave the open brackets as they are. -/
theorem openBrackets_of_kind (other : token.kind ≠ .parenthesis) :
    openBrackets (tokens ++ [token]) = openBrackets tokens := by
  have notOpening : token ≠ .opening := by
    rintro rfl
    exact other rfl
  have notClosing : token ≠ .closing := by
    rintro rfl
    exact other rfl
  rw [openBrackets_snoc, if_neg notOpening, List.nil_append, List.filter_eq_self]
  intro bracket listed
  have isOpen := mem_openBrackets.mp listed
  have left := isOpen.2.whole
  rw [decide_eq_true_eq, staysOpen_snoc isOpen.lt_length, List.count_append, List.count_append]
  exact ⟨isOpen, by simpa [List.count_singleton, notOpening, notClosing] using left⟩

end TenantGuard.Predicate
