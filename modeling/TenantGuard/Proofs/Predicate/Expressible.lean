import TenantGuard.Proofs.Predicate.Alternation
import TenantGuard.Proofs.Predicate.Spelling

/-!
# The expressions that can be written

Brackets never stand side by side, so a group in brackets has to begin and end with an
atom; only the outermost group goes without brackets and is free.  The main statement is
that, besides groups with fewer than two operands, this is all that cannot be written, and
that every other expression is read back from its canonical text.

Necessity follows the derivation of an accepted text, sufficiency the expression.
-/

namespace TenantGuard.Predicate

namespace Expr

mutual

/-- The expressions that stand within an expression, at any depth. -/
def within : Expr → List Expr
  | .atom _ => []
  | .group _ operands => andWithin operands

/-- Expressions, each followed by those within it. -/
def andWithin : List Expr → List Expr
  | [] => []
  | expr :: rest => expr :: expr.within ++ andWithin rest

end

/-- A group joins at least two operands. -/
def Ample : Expr → Prop
  | .atom _ => True
  | .group _ operands => 2 ≤ operands.length

/-- A group begins and ends with an atom. -/
def Edged : Expr → Prop
  | .atom _ => True
  | .group _ operands =>
      (∃ atom, operands.head? = some (.atom atom)) ∧
        ∃ atom, operands.getLast? = some (.atom atom)

/-- An expression that can stand on its own. -/
structure Expressible (expr : Expr) : Prop where
  ample : ∀ part ∈ expr :: expr.within, part.Ample
  edged : ∀ part ∈ expr.within, part.Edged

/-- An expression that can stand among others. -/
structure Enclosable (expr : Expr) : Prop extends expr.Expressible where
  edgedItself : expr.Edged

variable {combinator : Combinator} {operands : List Expr} {part : Expr}

theorem mem_andWithin :
    part ∈ andWithin operands ↔ ∃ operand ∈ operands, part ∈ operand :: operand.within := by
  induction operands with
  | nil => simp [andWithin]
  | cons expr rest ih => simp only [andWithin, List.mem_append, ih, List.exists_mem_cons_iff]

theorem enclosable_atom (atom : Atom) : (Expr.atom atom).Enclosable where
  ample := by simp [within, Ample]
  edged := by simp [within]
  edgedItself := trivial

/-- A group can stand on its own if it joins two operands that can stand among others. -/
theorem expressible_group :
    (Expr.group combinator operands).Expressible ↔
      2 ≤ operands.length ∧ ∀ operand ∈ operands, operand.Enclosable := by
  constructor
  · rintro ⟨ample, edged⟩
    have inside : ∀ operand ∈ operands, ∀ part ∈ operand :: operand.within,
        part ∈ (Expr.group combinator operands).within :=
      fun operand isOperand part isPart => mem_andWithin.mpr ⟨operand, isOperand, isPart⟩
    refine ⟨ample _ (List.mem_cons_self ..), fun operand isOperand => ⟨⟨?_, ?_⟩, ?_⟩⟩
    · exact fun part isPart =>
        ample part (List.mem_cons_of_mem _ (inside operand isOperand part isPart))
    · exact fun part isPart =>
        edged part (inside operand isOperand part (List.mem_cons_of_mem _ isPart))
    · exact edged operand (inside operand isOperand operand (List.mem_cons_self ..))
  · rintro ⟨two, enclosable⟩
    refine ⟨List.forall_mem_cons.mpr ⟨two, ?_⟩, ?_⟩
    · intro part isPart
      obtain ⟨operand, isOperand, isPart⟩ := mem_andWithin.mp isPart
      exact (enclosable operand isOperand).ample part isPart
    · intro part isPart
      obtain ⟨operand, isOperand, isPart⟩ := mem_andWithin.mp isPart
      cases isPart with
      | head => exact (enclosable part isOperand).edgedItself
      | tail _ isPart => exact (enclosable operand isOperand).edged part isPart

end Expr

/-! ## Necessity -/

section

variable {tokens : List Token} {phrase : Phrase}

/-- What the trees of a phrase look like, given the tokens that it stands between. -/
def Phrase.Shaped (tokens : List Token) : Phrase → Prop
  | .predicate expr =>
      expr.Expressible ∧
        ((∀ first ∈ tokens.head?, first.kind ≠ .parenthesis) →
          (∀ last ∈ tokens.getLast?, last.kind ≠ .parenthesis) → expr.Enclosable)
  | .operand expr =>
      expr.Enclosable ∧
        ((∀ first ∈ tokens.head?, first.kind ≠ .parenthesis) → ∃ atom, expr = .atom atom) ∧
        ((∀ last ∈ tokens.getLast?, last.kind ≠ .parenthesis) → ∃ atom, expr = .atom atom)
  | .continuation _ operands =>
      operands ≠ [] ∧ (∀ operand ∈ operands, operand.Enclosable) ∧
        ((∀ last ∈ tokens.getLast?, last.kind ≠ .parenthesis) →
          ∃ atom, operands.getLast? = some (.atom atom))

/-- Without brackets side by side, every bracketed tree begins and ends with an atom. -/
theorem Derives.shaped (derived : Derives tokens phrase) (alternates : Alternates tokens) :
    phrase.Shaped tokens := by
  induction derived with
  | lone _ operandIH =>
      obtain ⟨enclosable, _, _⟩ := operandIH alternates
      exact ⟨enclosable.toExpressible, fun _ _ => enclosable⟩
  | @joined tokens rest first combinator others firstDerived othersDerived firstIH othersIH =>
      obtain ⟨firstEnclosable, startsWithAtom, _⟩ := firstIH alternates.left_of_append
      obtain ⟨nonempty, othersEnclosable, endsWithAtom⟩ := othersIH alternates.right_of_append
      have expressible : (Expr.group combinator (first :: others)).Expressible := by
        rw [Expr.expressible_group, List.forall_mem_cons, List.length_cons]
        have := List.length_pos_of_ne_nil nonempty
        exact ⟨by omega, firstEnclosable, othersEnclosable⟩
      refine ⟨expressible, fun headUnlike lastUnlike => ⟨expressible, ?_, ?_⟩⟩
      · obtain ⟨atom, rfl⟩ := startsWithAtom fun token isFirst =>
          headUnlike token (List.mem_head?_append_of_mem_head? isFirst)
        exact ⟨atom, rfl⟩
      · obtain ⟨atom, isLast⟩ := endsWithAtom fun token isLast =>
          lastUnlike token (List.mem_getLast?_append_of_mem_getLast? isLast)
        exact ⟨atom, by rw [List.getLast?_cons_of_ne_nil nonempty, isLast]⟩
  | atom atom => exact ⟨Expr.enclosable_atom atom, fun _ => ⟨atom, rfl⟩, fun _ => ⟨atom, rfl⟩⟩
  | bracketed _ predicateIH =>
      obtain ⟨inner, headUnlike, lastUnlike⟩ := alternates.enclosed
      refine ⟨(predicateIH inner).2 headUnlike lastUnlike, fun headUnlike => ?_,
        fun lastUnlike => ?_⟩
      · exact absurd rfl (headUnlike .opening rfl)
      · exact absurd rfl (lastUnlike .closing (List.getLast?_concat ..))
  | last operand operandIH =>
      obtain ⟨enclosable, _, isAtom⟩ := operandIH alternates.tail
      refine ⟨List.cons_ne_nil _ _, by simpa using enclosable, fun lastUnlike => ?_⟩
      rw [List.getLast?_cons_of_ne_nil (ne_nil_of_first operand.edged.1)] at lastUnlike
      obtain ⟨atom, rfl⟩ := isAtom lastUnlike
      exact ⟨atom, rfl⟩
  | more operand others operandIH othersIH =>
      obtain ⟨enclosable, _, _⟩ := operandIH alternates.left_of_append.tail
      obtain ⟨nonempty, othersEnclosable, endsWithAtom⟩ := othersIH alternates.right_of_append
      refine ⟨List.cons_ne_nil _ _, List.forall_mem_cons.mpr ⟨enclosable, othersEnclosable⟩,
        fun lastUnlike => ?_⟩
      obtain ⟨atom, isLast⟩ := endsWithAtom fun token isLast =>
        lastUnlike token (List.mem_getLast?_append_of_mem_getLast? isLast)
      exact ⟨atom, by rw [List.getLast?_cons_of_ne_nil nonempty, isLast]⟩

end

/-! ## The canonical text -/

namespace Expr

mutual

/-- The tokens of an expression that stands among others. -/
def operandTokens : Expr → List Token
  | .atom name => [.atom name]
  | .group combinator operands => .opening :: joinedTokens combinator operands ++ [.closing]

/-- The tokens of operands between combinators. -/
def joinedTokens (combinator : Combinator) : List Expr → List Token
  | [] => []
  | [operand] => operand.operandTokens
  | operand :: next :: rest =>
      operand.operandTokens ++ .operator combinator :: joinedTokens combinator (next :: rest)

end

/-- The tokens of an expression.  No brackets stand around the outermost group. -/
def tokens : Expr → List Token
  | .atom name => [.atom name]
  | .group combinator operands => joinedTokens combinator operands

/-- The canonical text of an expression. -/
def print (expr : Expr) : String :=
  Token.spell expr.tokens

variable {combinator : Combinator} {operands : List Expr}

/-- A first operand without brackets is the first token. -/
theorem head?_joinedTokens {name : Atom} (isFirst : operands.head? = some (.atom name)) :
    (joinedTokens combinator operands).head? = some (.atom name) := by
  cases operands with
  | nil => cases isFirst
  | cons first rest =>
      cases isFirst
      cases rest <;> rfl

/-- A last operand without brackets is the last token. -/
theorem getLast?_joinedTokens {name : Atom} (isLast : operands.getLast? = some (.atom name)) :
    (joinedTokens combinator operands).getLast? = some (.atom name) := by
  induction operands with
  | nil => cases isLast
  | cons first rest ih =>
      cases rest with
      | nil =>
          cases isLast
          rfl
      | cons next rest =>
          rw [joinedTokens, List.append_cons]
          exact List.mem_getLast?_append_of_mem_getLast? (ih isLast)

end Expr

/-! ## Sufficiency -/

/-- Tokens that spell a phrase and have no two of a kind side by side. -/
structure Reads (tokens : List Token) (phrase : Phrase) : Prop where
  derived : Derives tokens phrase
  alternates : Alternates tokens

namespace Reads

variable {combinator : Combinator} {operands : List Expr} {expr : Expr} {tokens rest : List Token}

theorem last (operand : Reads tokens (.operand expr)) :
    Reads (.operator combinator :: tokens) (.continuation combinator [expr]) := by
  obtain ⟨⟨first, isFirst, notOperator⟩, _⟩ := operand.derived.edged
  refine ⟨.last operand.derived,
    List.isChain_cons.mpr ⟨fun token isToken => ?_, operand.alternates⟩⟩
  rw [Option.mem_unique isToken isFirst]
  exact notOperator.symm

/-- The combinator of a continuation is unlike the operand before it. -/
theorem alternates_append {phrase : Phrase} (before : Reads tokens phrase)
    (others : Reads rest (.continuation combinator operands)) : Alternates (tokens ++ rest) := by
  obtain ⟨last, isLast, notOperator⟩ : ∃ last ∈ tokens.getLast?, last.kind ≠ .operator := by
    cases phrase with
    | predicate | operand | continuation => exact before.derived.edged.2
  obtain ⟨⟨behind, rfl, _⟩, _⟩ := others.derived.edged
  refine List.isChain_append.mpr ⟨before.alternates, others.alternates, ?_⟩
  rintro token isToken _ ⟨⟩
  rw [Option.mem_unique isToken isLast]
  exact notOperator

theorem joined (first : Reads tokens (.operand expr))
    (others : Reads rest (.continuation combinator operands)) :
    Reads (tokens ++ rest) (.predicate (.group combinator (expr :: operands))) :=
  ⟨.joined first.derived others.derived, first.alternates_append others⟩

theorem more (operand : Reads tokens (.operand expr))
    (others : Reads rest (.continuation combinator operands)) :
    Reads (.operator combinator :: tokens ++ rest) (.continuation combinator (expr :: operands)) :=
  ⟨.more operand.derived others.derived, operand.last.alternates_append others⟩

/-- Brackets are unlike what they enclose if that neither begins nor ends with a bracket. -/
theorem bracketed (inner : Reads tokens (.predicate expr))
    (headUnlike : ∀ first ∈ tokens.head?, first.kind ≠ .parenthesis)
    (lastUnlike : ∀ last ∈ tokens.getLast?, last.kind ≠ .parenthesis) :
    Reads (.opening :: tokens ++ [.closing]) (.operand expr) := by
  refine ⟨.bracketed inner.derived,
    List.isChain_append.mpr ⟨List.isChain_cons.mpr ⟨?_, inner.alternates⟩, .singleton _, ?_⟩⟩
  · exact fun first isFirst => (headUnlike first isFirst).symm
  · rintro last isLast _ ⟨⟩
    rw [List.getLast?_cons_of_ne_nil (ne_nil_of_first inner.derived.edged.1)] at isLast
    exact lastUnlike last isLast

end Reads

namespace Expr

mutual

/-- An expression that can stand among others is read from its tokens. -/
theorem Enclosable.reads : ∀ {expr : Expr}, expr.Enclosable →
    Reads expr.operandTokens (.operand expr)
  | .atom name, _ => ⟨.atom name, .singleton _⟩
  | .group combinator operands, enclosable => by
      obtain ⟨two, enclosables⟩ := expressible_group.mp enclosable.toExpressible
      obtain ⟨⟨firstAtom, isFirst⟩, lastAtom, isLast⟩ := enclosable.edgedItself
      apply (reads_joinedTokens two enclosables).bracketed
      · intro token isToken
        cases (head?_joinedTokens isFirst).symm.trans isToken
        simp [Token.kind]
      · intro token isToken
        cases (getLast?_joinedTokens isLast).symm.trans isToken
        simp [Token.kind]

/-- A group is read from its operands between combinators. -/
theorem reads_joinedTokens : ∀ {combinator : Combinator} {operands : List Expr},
    2 ≤ operands.length → (∀ operand ∈ operands, operand.Enclosable) →
    Reads (joinedTokens combinator operands) (.predicate (.group combinator operands))
  | _, first :: next :: rest, _, enclosables => by
      obtain ⟨enclosable, others⟩ := List.forall_mem_cons.mp enclosables
      exact enclosable.reads.joined (reads_continuation (List.cons_ne_nil _ _) others)

/-- Further operands are read where a combinator stands before them. -/
theorem reads_continuation : ∀ {combinator : Combinator} {operands : List Expr},
    operands ≠ [] → (∀ operand ∈ operands, operand.Enclosable) →
    Reads (.operator combinator :: joinedTokens combinator operands)
      (.continuation combinator operands)
  | _, [operand], _, enclosables => (enclosables operand (List.mem_singleton_self _)).reads.last
  | _, operand :: next :: rest, _, enclosables => by
      obtain ⟨enclosable, others⟩ := List.forall_mem_cons.mp enclosables
      exact enclosable.reads.more (reads_continuation (List.cons_ne_nil _ _) others)

end

theorem Expressible.reads : ∀ {expr : Expr}, expr.Expressible →
    Reads expr.tokens (.predicate expr)
  | .atom name, _ => ⟨.lone (.atom name), .singleton _⟩
  | .group _ _, expressible => by
      obtain ⟨two, enclosables⟩ := expressible_group.mp expressible
      exact reads_joinedTokens two enclosables

/-- What can stand on its own is read back from its canonical text. -/
theorem Expressible.parse_print {expr : Expr} (expressible : expr.Expressible) :
    ∃ predicate, parse expr.print = .ok predicate ∧ predicate.expr = .ok expr := by
  obtain ⟨derived, alternates⟩ := expressible.reads
  have nonempty : expr.tokens ≠ [] := ne_nil_of_first derived.edged.1
  exact parse_expr_eq_ok_iff.mpr ⟨expr.tokens, tokenize_spell nonempty, alternates, derived⟩

/-- Exactly the expressions whose groups all have two operands, and whose inner groups begin
and end with an atom, are the tree of some text, and each of them is that of its canonical
text. -/
theorem written_iff_expressible (expr : Expr) :
    ((∃ source predicate, parse source = .ok predicate ∧ predicate.expr = .ok expr) ↔
        expr.Expressible) ∧
      (expr.Expressible →
        ∃ predicate, parse expr.print = .ok predicate ∧ predicate.expr = .ok expr) := by
  refine ⟨⟨?_, fun expressible => ⟨expr.print, expressible.parse_print⟩⟩,
    Expressible.parse_print⟩
  rintro ⟨source, parsed⟩
  obtain ⟨tokens, _, alternates, derived⟩ := parse_expr_eq_ok_iff.mp parsed
  exact (derived.shaped alternates).1

/-- A group may stand at the edge of the outermost group, and its text has brackets around
it; one level deeper it may not. -/
theorem written_iff_expressible_at_edges :
    let inner := Expr.group .all [.atom .unassigned, .atom .systemTenant]
    let outer := Expr.group .any [inner, .atom .allowedTenants]
    outer.print = "( false AND system_company ) OR allowed_companies" ∧
      (∃ predicate, parse outer.print = .ok predicate ∧ predicate.expr = .ok outer) ∧
      ¬ ∃ source predicate, parse source = .ok predicate ∧
        predicate.expr = .ok (.group .all [outer, .atom .selectedTenant]) := by
  have inner : (Expr.group .all [.atom .unassigned, .atom .systemTenant]).Enclosable := by
    refine ⟨expressible_group.mpr ⟨by decide, ?_⟩, ⟨_, rfl⟩, ⟨_, rfl⟩⟩
    simp [enclosable_atom]
  have outer : (Expr.group .any [.group .all [.atom .unassigned, .atom .systemTenant],
      .atom .allowedTenants]).Expressible :=
    expressible_group.mpr ⟨by decide, by simp [inner, enclosable_atom]⟩
  refine ⟨by decide +kernel, (written_iff_expressible _).2 outer, ?_⟩
  rw [(written_iff_expressible _).1]
  intro expressible
  have edged := (expressible.edged _ (List.mem_cons_self ..)).1
  simp at edged

end Expr

end TenantGuard.Predicate
