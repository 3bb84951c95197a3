import Mathlib.Data.List.Forall2
import Mathlib.Data.List.Nodup
import Mathlib.Data.Nat.Find
import Mathlib.Data.Option.Basic
import TenantGuard.Proofs.Predicate.Brackets
import TenantGuard.Proofs.Predicate.Reporting

/-!
# One combinator per bracket group

Two positions lie directly in the same bracket group if their innermost open bracket is the
same, or if both lie outside all brackets.  The check of combinators does not look for such
brackets.  It keeps a combinator for every group that is open, and what it keeps is always
the first one that lies directly in that group: a group that is opened later at the same
depth is another group, and an inner group leaves those around it alone.  The main statement
is that the check fails exactly if two operators of one group differ, and that it reports
the first operator that is unlike the first one of its group.
-/

namespace TenantGuard.Predicate

/-- The bracket group that a position lies directly in, known by the innermost bracket that is
open there; outside all brackets there is none. -/
def groupAt (tokens : List Token) (position : Nat) : Option Nat :=
  (openBrackets (tokens.take position)).head?

/-- How many brackets are open at a position. -/
def depthAt (tokens : List Token) (position : Nat) : Nat :=
  (openBrackets (tokens.take position)).length

/-- The first operator that lies directly in a group. -/
structure Leads (tokens : List Token) (group : Option Nat) (start : Nat)
    (combinator : Combinator) : Prop where
  operator : tokens[start]? = some (.operator combinator)
  inside : groupAt tokens start = group
  first : ∀ earlier < start, ∀ other, tokens[earlier]? = some (.operator other) →
    groupAt tokens earlier ≠ group

/-- The fault of an operator that differs from the first one of its group. -/
inductive BreaksUniformity (tokens : List Token) (position : Nat) : GrammarError → Prop where
  | mixed {start : Nat} {expected found : Combinator}
      (leads : Leads tokens (groupAt tokens position) start expected)
      (here : tokens[position]? = some (.operator found)) (differ : expected ≠ found) :
      BreaksUniformity tokens position
        (.mixedOperators expected found (depthAt tokens position) position)

variable {tokens rest : List Token} {position bracket : Nat} {token : Token}
variable {group : Option Nat} {combinator found : Combinator} {level : Option Combinator}
variable {enclosing : List (Option Combinator)} {fault other : GrammarError}

/-! ## The first operator of a group -/

theorem Leads.unique {start startToo : Nat} {combinatorToo : Combinator}
    (leads : Leads tokens group start combinator)
    (leadsToo : Leads tokens group startToo combinatorToo) : combinator = combinatorToo := by
  have same : start = startToo := by
    rcases Nat.lt_trichotomy start startToo with before | same | behind
    · exact absurd leads.inside (leadsToo.first start before _ leads.operator)
    · exact same
    · exact absurd leadsToo.inside (leads.first startToo behind _ leadsToo.operator)
  subst same
  cases Option.some.inj (leads.operator.symm.trans leadsToo.operator)
  rfl

/-- A group with an operator has a first one. -/
theorem exists_leads (here : tokens[position]? = some (.operator combinator)) :
    ∃ start first, Leads tokens (groupAt tokens position) start first := by
  classical
  have some : ∃ start first, tokens[start]? = some (.operator first) ∧
      groupAt tokens start = groupAt tokens position := ⟨position, combinator, here, rfl⟩
  obtain ⟨first, operator, inside⟩ := Nat.find_spec some
  refine ⟨Nat.find some, first, operator, inside, ?_⟩
  intro earlier before other isOperator sameGroup
  exact Nat.find_min some before ⟨other, isOperator, sameGroup⟩

theorem BreaksUniformity.unique (breaks : BreaksUniformity tokens position fault)
    (breaksToo : BreaksUniformity tokens position other) : fault = other := by
  obtain ⟨leads, here, _⟩ := breaks
  obtain ⟨leadsToo, hereToo, _⟩ := breaksToo
  cases Option.some.inj (here.symm.trans hereToo)
  rw [leads.unique leadsToo]

theorem foremost_iff : Foremost (BreaksUniformity tokens) position fault ↔
    BreaksUniformity tokens position fault :=
  ⟨Foremost.broken, fun broken =>
    ⟨broken, fun _ breaks => by rw [broken.unique breaks]⟩⟩

/-- Two operators of one group differ exactly if one of them differs from the first. -/
theorem exists_breaksUniformity_iff :
    (∃ position fault, BreaksUniformity tokens position fault) ↔
      ∃ first second one other, tokens[first]? = some (.operator one) ∧
        tokens[second]? = some (.operator other) ∧
        groupAt tokens first = groupAt tokens second ∧ one ≠ other := by
  constructor
  · rintro ⟨position, _, leads, here, differ⟩
    exact ⟨_, position, _, _, leads.operator, here, leads.inside, differ⟩
  · rintro ⟨first, second, one, other, isOne, isOther, sameGroup, differ⟩
    obtain ⟨start, expected, leads⟩ := exists_leads isOne
    by_cases same : expected = one
    · subst same
      rw [sameGroup] at leads
      exact ⟨second, _, .mixed leads isOther differ⟩
    · exact ⟨first, _, .mixed leads isOne same⟩

/-! ## What is kept for each group -/

/-- The groups that are open behind the tokens, inside out.  The last one lies outside all
brackets. -/
def openGroups (tokens : List Token) : List (Option Nat) :=
  (openBrackets tokens).map some ++ [none]

/-- What is kept for a group at a position: the first of its operators before it. -/
def LedBy (tokens : List Token) (position : Nat) (group : Option Nat) :
    Option Combinator → Prop
  | none => ∀ earlier < position, ∀ other, tokens[earlier]? = some (.operator other) →
      groupAt tokens earlier ≠ group
  | some combinator => ∃ start < position, Leads tokens group start combinator

/-- What the check of combinators knows of the tokens before its position. -/
def ReadUniform (tokens : List Token) (position : Nat) (levels : List (Option Combinator)) :
    Prop :=
  List.Forall₂ (LedBy tokens position) (openGroups (tokens.take position)) levels

theorem nodup_openGroups (tokens : List Token) : (openGroups tokens).Nodup := by
  have descending : (openBrackets tokens).Nodup :=
    (openBrackets_descending tokens).imp fun further => Nat.ne_of_gt further
  rw [openGroups, List.nodup_append]
  refine ⟨descending.map (Option.some_injective _), List.nodup_singleton _, ?_⟩
  simp

theorem head?_openGroups (tokens : List Token) :
    (openGroups tokens).head? = some (openBrackets tokens).head? := by
  rw [openGroups]
  cases openBrackets tokens <;> rfl

/-- A group is opened before what lies in it. -/
theorem lt_of_groupAt (isGroup : groupAt tokens position = some bracket) : bracket < position := by
  have isOpen := mem_openBrackets.mp (List.mem_of_head? isGroup)
  exact Nat.lt_of_lt_of_le isOpen.lt_length (List.length_take_le ..)

/-- What is kept for a group stays right unless an operator of that group is passed. -/
theorem LedBy.next (led : LedBy tokens position group level)
    (elsewhere : ∀ combinator, tokens[position]? = some (.operator combinator) →
      groupAt tokens position ≠ group) : LedBy tokens (position + 1) group level := by
  cases level with
  | none =>
      intro earlier before
      rcases Nat.lt_or_eq_of_le (Nat.lt_succ_iff.mp before) with before | rfl
      · exact led earlier before
      · exact elsewhere
  | some combinator =>
      obtain ⟨start, before, leads⟩ := led
      exact ⟨start, Nat.lt_succ_of_lt before, leads⟩

/-- Behind an operator that is the first one of its group, or like it, that operator is kept. -/
theorem LedBy.operator (led : LedBy tokens position (groupAt tokens position) level)
    (here : tokens[position]? = some (.operator found)) (agrees : level.all (· = found)) :
    LedBy tokens (position + 1) (groupAt tokens position) (some found) := by
  cases level with
  | none => exact ⟨position, Nat.lt_succ_self position, here, rfl, led⟩
  | some expected =>
      have same : expected = found := by simpa using agrees
      obtain ⟨start, before, leads⟩ := led
      exact ⟨start, Nat.lt_succ_of_lt before, same ▸ leads⟩

namespace ReadUniform

variable {levels : List (Option Combinator)}

theorem start : ReadUniform tokens 0 [none] := by
  refine .cons ?_ .nil
  intro earlier before
  exact absurd before (Nat.not_lt_zero earlier)

/-- The combinator on top is kept for the group of the position. -/
theorem top (read : ReadUniform tokens position (level :: enclosing)) :
    ∃ around, openGroups (tokens.take position) = groupAt tokens position :: around ∧
      LedBy tokens position (groupAt tokens position) level ∧
      List.Forall₂ (LedBy tokens position) around enclosing := by
  have head := head?_openGroups (tokens.take position)
  rw [ReadUniform] at read
  cases listed : openGroups (tokens.take position) with
  | nil => rw [listed] at read; cases read
  | cons innermost around =>
      rw [listed] at read head
      cases Option.some.inj head
      cases read with
      | cons led others => exact ⟨around, rfl, led, others⟩

theorem length_enclosing (read : ReadUniform tokens position (level :: enclosing)) :
    enclosing.length = depthAt tokens position := by
  have length := List.Forall₂.length_eq read
  simpa [openGroups, depthAt] using length.symm

/-- Behind a token that is no operator, what is kept for the open groups stays right. -/
theorem next (read : ReadUniform tokens position levels)
    (here : tokens[position]? = some token) (notOperator : token.kind ≠ .operator) :
    List.Forall₂ (LedBy tokens (position + 1)) (openGroups (tokens.take position)) levels := by
  apply List.Forall₂.imp _ read
  intro group level led
  apply led.next
  intro combinator isOperator
  cases Option.some.inj (here.symm.trans isOperator)
  exact absurd rfl notOperator

/-- Nothing is kept yet for a group that is just opened. -/
theorem opening (read : ReadUniform tokens position levels)
    (here : tokens[position]? = some .opening) :
    ReadUniform tokens (position + 1) (none :: levels) := by
  have inside := (List.getElem?_eq_some_iff.mp here).1
  rw [ReadUniform, List.take_add_one, here, Option.toList_some, openGroups, openBrackets_opening,
    List.length_take, Nat.min_eq_left (Nat.le_of_lt inside)]
  refine .cons ?_ (read.next here (by simp [Token.kind]))
  intro earlier before other _ isInside
  have := lt_of_groupAt isInside
  omega

/-- A group that is closed is given up; outside all brackets there is none to close. -/
theorem closing (read : ReadUniform tokens position (level :: enclosing))
    (here : tokens[position]? = some .closing) :
    ReadUniform tokens (position + 1) (if enclosing = [] then [level] else enclosing) := by
  have kept := read.next here (by simp [Token.kind])
  rw [ReadUniform, List.take_add_one, here, Option.toList_some, openGroups, openBrackets_closing]
  rw [openGroups] at kept
  cases listed : openBrackets (tokens.take position) with
  | nil =>
      rw [listed] at kept
      cases kept with
      | cons led others =>
          cases others
          exact .cons led .nil
  | cons innermost around =>
      rw [listed] at kept
      cases kept with
      | cons led others =>
          rw [if_neg]
          · exact others
          · rintro rfl
            simp at others

/-- Other tokens open and close no group. -/
theorem operand (read : ReadUniform tokens position levels) {name : Atom}
    (here : tokens[position]? = some (.atom name)) : ReadUniform tokens (position + 1) levels := by
  rw [ReadUniform, List.take_add_one, here, Option.toList_some, openGroups,
    openBrackets_of_kind (by simp [Token.kind])]
  exact read.next here (by simp [Token.kind])

/-- The first operator of a group is kept, and those that are like it change nothing. -/
theorem operator (read : ReadUniform tokens position (level :: enclosing))
    (here : tokens[position]? = some (.operator found)) (agrees : level.all (· = found)) :
    ReadUniform tokens (position + 1) (some found :: enclosing) := by
  obtain ⟨around, groups, led, others⟩ := read.top
  have apart : ∀ group ∈ around, groupAt tokens position ≠ group := by
    have nodup := nodup_openGroups (tokens.take position)
    rw [groups] at nodup
    intro group isAround same
    exact (List.nodup_cons.mp nodup).1 (same ▸ isAround)
  rw [ReadUniform, List.take_add_one, here, Option.toList_some, openGroups,
    openBrackets_of_kind (by simp [Token.kind]), ← openGroups, groups]
  have both := (List.forall₂_and_left around enclosing).mpr ⟨apart, others⟩
  exact .cons (led.operator here agrees)
    (both.imp fun _ _ kept => kept.2.next fun _ _ => kept.1)

/-- An operator that is unlike the one that is kept is a fault. -/
theorem mixed (read : ReadUniform tokens position (some combinator :: enclosing))
    (here : tokens[position]? = some (.operator found)) (differ : combinator ≠ found) :
    BreaksUniformity tokens position
      (.mixedOperators combinator found enclosing.length position) := by
  obtain ⟨_, _, ⟨start, _, leads⟩, _⟩ := read.top
  rw [read.length_enclosing]
  exact .mixed leads here differ

/-- An operator is none if it is the first one of its group or like the one that is kept. -/
theorem fine (read : ReadUniform tokens position (level :: enclosing))
    (here : tokens[position]? = some (.operator found)) (agrees : level.all (· = found)) :
    ∀ fault, ¬ BreaksUniformity tokens position fault := by
  rintro _ ⟨leads, isHere, differ⟩
  cases Option.some.inj (here.symm.trans isHere)
  obtain ⟨_, _, led, _⟩ := read.top
  obtain ⟨_, _, leadsToo⟩ := led.operator here agrees
  exact differ (leads.unique leadsToo)

/-- From each position on, the check reports the first fault. -/
theorem reports (read : ReadUniform tokens position (level :: enclosing))
    (ahead : tokens.drop position = rest) :
    ReportsFrom (BreaksUniformity tokens) position
      (checkUniformFrom position level enclosing rest) := by
  induction rest generalizing position level enclosing with
  | nil =>
      rintro later notBefore _ ⟨_, here, _⟩
      have atEnd : tokens.length ≤ position := List.drop_eq_nil_iff.mp ahead
      rw [List.getElem?_eq_none (Nat.le_trans atEnd notBefore)] at here
      cases here
  | cons token rest ih =>
      obtain ⟨here, behind⟩ := getElem?_of_drop ahead
      have passes : token.kind ≠ .operator → ∀ fault, ¬ BreaksUniformity tokens position fault := by
        rintro notOperator _ ⟨_, isOperator, _⟩
        cases Option.some.inj (here.symm.trans isOperator)
        exact notOperator rfl
      cases token with
      | opening => exact .passed (passes (by simp [Token.kind])) (ih (read.opening here) behind)
      | closing =>
          have next := read.closing here
          cases enclosing with
          | nil => exact .passed (passes (by simp [Token.kind])) (ih next behind)
          | cons => exact .passed (passes (by simp [Token.kind])) (ih next behind)
      | operator found =>
          cases level with
          | none => exact .passed (read.fine here rfl) (ih (read.operator here rfl) behind)
          | some expected =>
              rw [checkUniformFrom]
              split
              next same =>
                have agrees : (some expected).all (· = found) := by simpa using same
                have next := read.operator here agrees
                rw [← same] at next
                exact .passed (read.fine here agrees) (ih next behind)
              next differ => exact .stopped (foremost_iff.mpr (read.mixed here differ))
      | atom => exact .passed (passes (by simp [Token.kind])) (ih (read.operand here) behind)

end ReadUniform

/-! ## What the check answers -/

theorem checkUniform_reports (tokens : List Token) :
    ReportsFrom (BreaksUniformity tokens) 0 (checkUniform tokens) :=
  ReadUniform.start.reports List.drop_zero

/-- The check of combinators fails exactly if two operators that lie directly in one bracket
group differ.  It reports the first operator that differs from the first one of its group,
with that one as the expected operator and the number of brackets that are open there.  This
holds of every token list, also where a bracket closes nothing. -/
theorem checkUniform_exact (tokens : List Token) :
    ((∃ fault, checkUniform tokens = .error fault) ↔
        ∃ first second one other, tokens[first]? = some (.operator one) ∧
          tokens[second]? = some (.operator other) ∧
          groupAt tokens first = groupAt tokens second ∧ one ≠ other) ∧
      ∀ fault, checkUniform tokens = .error fault ↔
        ∃ position, BreaksUniformity tokens position fault ∧
          ∀ earlier < position, ∀ other, ¬ BreaksUniformity tokens earlier other := by
  have reports := checkUniform_reports tokens
  constructor
  · rw [← exists_breaksUniformity_iff]
    cases checked : checkUniform tokens with
    | ok =>
        have fine := reports.eq_ok_iff.mp checked
        constructor
        · rintro ⟨_, ⟨⟩⟩
        · rintro ⟨position, fault, broken⟩
          exact absurd broken (fine position fault)
    | error fault =>
        rw [checked] at reports
        obtain ⟨position, _, foremost, _⟩ := reports
        exact ⟨fun _ => ⟨position, fault, foremost.broken⟩, fun _ => ⟨fault, rfl⟩⟩
  · intro fault
    rw [reports.eq_error_iff fun breaks breaksToo _ => breaks.unique breaksToo]
    simp only [foremost_iff]

/-- The inner group neither mixes with the one around it nor resets it. -/
example :
    let tokens : List Token := [.atom .unassigned, .operator .all, .opening, .atom .systemTenant,
      .operator .any, .atom .selectedTenant, .closing, .operator .any, .atom .allowedTenants]
    (groupAt tokens 1, groupAt tokens 4, groupAt tokens 7) = (none, some 2, none) ∧
      checkUniform tokens = .error (.mixedOperators .all .any 0 7) := by
  decide

end TenantGuard.Predicate
