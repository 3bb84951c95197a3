import TenantGuard.Predicate.Structure

/-!
# Checks that report the first fault

A check goes over the positions of a token list in order and stops at the first one where a
rule is broken.  If several rules are broken there, it reports the one that it looks at
first.  What such a check answers is determined by its rules, so it is enough to follow it
from one position to the next: each step either stops at a fault or finds none.
-/

namespace TenantGuard.Predicate

/-- What a check has before it at a position is the token there and what stands behind. -/
theorem getElem?_of_drop {tokens rest : List Token} {position : Nat} {token : Token}
    (ahead : tokens.drop position = token :: rest) :
    tokens[position]? = some token ∧ tokens.drop (position + 1) = rest := by
  constructor
  · rw [← List.head?_drop, ahead, List.head?_cons]
  · rw [← List.tail_drop, ahead, List.tail_cons]

/-- The order in which faults are looked for at one position, and in which the faults of a
text are reported at all. -/
def GrammarError.precedence : GrammarError → Nat
  | .unknownWord .. => 0
  | .unmatchedClosing _ => 1
  | .adjacentKind .. => 2
  | .operatorAtEdge .. => 3
  | .mixedOperators .. => 4

/-- The fault that a position is reported for: no fault there is looked for before it. -/
structure Foremost (breaks : Nat → GrammarError → Prop) (position : Nat) (fault : GrammarError) :
    Prop where
  broken : breaks position fault
  precedes : ∀ other, breaks position other → fault.precedence ≤ other.precedence

/-- What a check that starts at a position answers, given which faults there are where. -/
def ReportsFrom (breaks : Nat → GrammarError → Prop) (position : Nat) :
    Except GrammarError Unit → Prop
  | .ok () => ∀ later, position ≤ later → ∀ fault, ¬ breaks later fault
  | .error fault => ∃ first, position ≤ first ∧ Foremost breaks first fault ∧
      ∀ earlier, position ≤ earlier → earlier < first → ∀ other, ¬ breaks earlier other

namespace ReportsFrom

variable {breaks : Nat → GrammarError → Prop} {position : Nat} {fault : GrammarError}
variable {result : Except GrammarError Unit}

/-- The check stops at a fault. -/
theorem stopped (foremost : Foremost breaks position fault) :
    ReportsFrom breaks position (.error fault) :=
  ⟨position, Nat.le_refl position, foremost,
    fun _ notBefore before => absurd before (Nat.not_lt.mpr notBefore)⟩

/-- The check goes on behind a position without one. -/
theorem passed (fine : ∀ fault, ¬ breaks position fault)
    (reports : ReportsFrom breaks (position + 1) result) : ReportsFrom breaks position result := by
  cases result with
  | ok =>
      intro later notBefore
      rcases Nat.eq_or_lt_of_le notBefore with rfl | behind
      · exact fine
      · exact reports later behind
  | error fault =>
      obtain ⟨first, behind, foremost, noneBefore⟩ := reports
      refine ⟨first, Nat.le_of_succ_le behind, foremost, fun earlier notBefore before => ?_⟩
      rcases Nat.eq_or_lt_of_le notBefore with rfl | inside
      · exact fine
      · exact noneBefore earlier inside before

/-- A check succeeds exactly if no rule is broken anywhere. -/
theorem eq_ok_iff (reports : ReportsFrom breaks 0 result) :
    result = .ok () ↔ ∀ position fault, ¬ breaks position fault := by
  cases result with
  | ok => exact ⟨fun _ position => reports position (Nat.zero_le position), fun _ => rfl⟩
  | error fault =>
      obtain ⟨first, _, foremost, _⟩ := reports
      constructor
      · intro succeeded
        cases succeeded
      · exact fun fine => absurd foremost.broken (fine first fault)

/-- A check fails exactly for the foremost fault of the first position where a rule is broken. -/
theorem eq_error_iff (reports : ReportsFrom breaks 0 result)
    (unique : ∀ {position fault other}, breaks position fault → breaks position other →
      fault.precedence = other.precedence → fault = other) :
    result = .error fault ↔ ∃ position, Foremost breaks position fault ∧
      ∀ earlier < position, ∀ other, ¬ breaks earlier other := by
  cases result with
  | ok =>
      constructor
      · intro failed
        cases failed
      · rintro ⟨position, foremost, _⟩
        exact absurd foremost.broken (reports position (Nat.zero_le position) fault)
  | error reported =>
      obtain ⟨first, _, foremost, noneBefore⟩ := reports
      constructor
      · rintro ⟨⟩
        exact ⟨first, foremost, fun earlier => noneBefore earlier (Nat.zero_le earlier)⟩
      · rintro ⟨position, foremostToo, noneBeforeToo⟩
        have same : position = first := by
          rcases Nat.lt_trichotomy position first with before | same | behind
          · have fine := noneBefore position (Nat.zero_le position) before
            exact absurd foremostToo.broken (fine fault)
          · exact same
          · exact absurd foremost.broken (noneBeforeToo first behind reported)
        subst same
        rw [unique foremost.broken foremostToo.broken
          (Nat.le_antisymm (foremost.precedes _ foremostToo.broken)
            (foremostToo.precedes _ foremost.broken))]

end ReportsFrom

end TenantGuard.Predicate
