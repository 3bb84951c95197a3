import Std.Data.String.ToInt
import TenantGuard.Filter.Basic

/-!
# Reading a domain text

The text that the store keeps of a filter is a list in brackets: quoted signs of
combinators, and tuples of a quoted attribute, a quoted relation and a bare value.  A
quoted text ends at the next quote, so an attribute that has a quote in its name cannot be
written.

The main statement is that this is the only obstacle: the text of a filter is read as the
filter's terms if and only if no condition has a quote in its attribute.
-/

namespace TenantGuard.Filter

open Predicate (Combinator)

/-- The sign around a quoted text. -/
def quote : Char := '\''

/-- A sign that structures a domain text. -/
inductive Mark where
  | listOpens
  | listCloses
  | tupleOpens
  | tupleCloses
  | comma
  deriving DecidableEq, Repr

namespace Mark

def sign : Mark → Char
  | .listOpens => '['
  | .listCloses => ']'
  | .tupleOpens => '('
  | .tupleCloses => ')'
  | .comma => ','

/-- The mark that a letter is. -/
def ofSign? (letter : Char) : Option Mark :=
  [listOpens, listCloses, tupleOpens, tupleCloses, comma].find? (·.sign = letter)

@[simp] theorem ofSign?_sign (mark : Mark) : ofSign? mark.sign = some mark := by
  cases mark <;> rfl

theorem sign_ne_quote (mark : Mark) : mark.sign ≠ quote := by
  cases mark <;> decide

theorem sign_ne_space (mark : Mark) : mark.sign ≠ ' ' := by
  cases mark <;> decide

end Mark

/-- A piece of a domain text. -/
inductive Lexeme where
  | mark (mark : Mark)
  /-- What stands between two quotes. -/
  | quoted (text : List Char)
  /-- A stretch of letters that are neither quoted nor marks. -/
  | word (letters : List Char)
  deriving DecidableEq, Repr

/-- Where a reader stands, with what it has seen of the quoted text or word there. -/
inductive Position where
  | inside (seen : List Char)
  | outside (seen : List Char)

/-- Put a word in front, if one has begun. -/
def endWord (letters : List Char) (lexemes : List Lexeme) : List Lexeme :=
  if letters = [] then lexemes else .word letters :: lexemes

@[simp] theorem endWord_nil (lexemes : List Lexeme) : endWord [] lexemes = lexemes := rfl

theorem endWord_of_ne_nil {letters : List Char} (begun : letters ≠ []) (lexemes : List Lexeme) :
    endWord letters lexemes = .word letters :: lexemes :=
  if_neg begun

/-- Cut a text into its pieces.  Spaces outside quotes only end words. -/
def lexemes? : Position → List Char → Option (List Lexeme)
  | .inside _, [] => none
  | .inside seen, letter :: rest =>
      if letter = quote then
        (lexemes? (.outside []) rest).map (.quoted seen :: ·)
      else
        lexemes? (.inside (seen ++ [letter])) rest
  | .outside seen, [] => some (endWord seen [])
  | .outside seen, letter :: rest =>
      if letter = quote then
        (lexemes? (.inside []) rest).map (endWord seen)
      else if letter = ' ' then
        (lexemes? (.outside []) rest).map (endWord seen)
      else
        match Mark.ofSign? letter with
        | some mark => (lexemes? (.outside []) rest).map (endWord seen <| .mark mark :: ·)
        | none => lexemes? (.outside (seen ++ [letter])) rest

def Relation.ofSymbol? (text : List Char) : Option Relation :=
  [Relation.eq, .isIn, .parentOf, .childOf].find? (·.symbol.toList = text)

@[simp] theorem Relation.ofSymbol?_symbol (relation : Relation) :
    ofSymbol? relation.symbol.toList = some relation := by
  cases relation <;> rfl

/-- A value is one of the fixed words or a number. -/
def Value.ofText? (text : List Char) : Option Value :=
  match [Value.allowedTenants, .selectedTenant, .bool true, .bool false].find?
      (·.text.toList = text) with
  | some value => some value
  | none => (String.ofList text).toInt?.map .int

def combinatorOfSign? (text : List Char) : Option Combinator :=
  [Combinator.all, .any].find? fun combinator => (combinatorSign combinator).toList = text

@[simp] theorem combinatorOfSign?_sign (combinator : Combinator) :
    combinatorOfSign? (combinatorSign combinator).toList = some combinator := by
  cases combinator <;> rfl

/-- The term that a tuple stands for. -/
def tuple? : Lexeme → List Char → List Char → Option Term
  | .quoted field, relation, value => do
      let relation ← Relation.ofSymbol? relation
      let value ← Value.ofText? value
      return .condition ⟨String.ofList field, relation, value⟩
  | .word constant, relation, value =>
      if constant = ['1'] ∧ relation = ['='] ∧ value = ['1'] then some .always else none
  | .mark _, _, _ => none

/-- What a list goes on with. -/
inductive Slot where
  | term
  | separator

/-- Read a list to its end. -/
def terms? : Slot → List Lexeme → Option (List Term)
  | .separator, [.mark .listCloses] => some []
  | .separator, .mark .comma :: rest => terms? .term rest
  | .term, .quoted sign :: rest =>
      (combinatorOfSign? sign).bind fun combinator =>
        (terms? .separator rest).map (.operator combinator :: ·)
  | .term, .mark .tupleOpens :: field :: .mark .comma :: .quoted relation :: .mark .comma ::
      .word value :: .mark .tupleCloses :: rest =>
      (tuple? field relation value).bind fun term => (terms? .separator rest).map (term :: ·)
  | _, _ => none

/-- The terms of a list in brackets. -/
def list? : List Lexeme → Option (List Term)
  | [.mark .listOpens, .mark .listCloses] => some []
  | .mark .listOpens :: rest => terms? .term rest
  | _ => none

/-- Read a domain text. -/
def read? (text : String) : Option (List Term) :=
  (lexemes? (.outside []) text.toList).bind list?

/-! ## From text to pieces -/

section

variable {rest : List Char}

/-- A quoted text goes on to the next quote. -/
theorem lexemes?_inside {text : List Char} (plain : quote ∉ text) (seen : List Char) :
    lexemes? (.inside seen) (text ++ quote :: rest) =
      (lexemes? (.outside []) rest).map (.quoted (seen ++ text) :: ·) := by
  induction text generalizing seen with
  | nil => rw [List.nil_append, lexemes?, if_pos rfl, List.append_nil]
  | cons letter letters ih =>
      rw [List.mem_cons, not_or] at plain
      rw [List.cons_append, lexemes?, if_neg (Ne.symm plain.1), ih plain.2, List.append_assoc,
        List.singleton_append]

theorem lexemes?_quoted {text : List Char} (plain : quote ∉ text) :
    lexemes? (.outside []) (quote :: (text ++ quote :: rest)) =
      (lexemes? (.outside []) rest).map (.quoted text :: ·) := by
  rw [lexemes?, if_pos rfl, lexemes?_inside plain, Option.map_map]
  rfl

theorem lexemes?_mark (seen : List Char) (mark : Mark) :
    lexemes? (.outside seen) (mark.sign :: rest) =
      (lexemes? (.outside []) rest).map (endWord seen <| .mark mark :: ·) := by
  rw [lexemes?, if_neg mark.sign_ne_quote, if_neg mark.sign_ne_space, Mark.ofSign?_sign]

theorem lexemes?_space (rest : List Char) :
    lexemes? (.outside []) (' ' :: rest) = lexemes? (.outside []) rest := by
  rw [lexemes?, if_neg (by decide), if_pos rfl]
  exact Option.map_id_apply

/-- Whether a letter can be part of a word outside quotes. -/
def IsBare (letter : Char) : Prop :=
  letter ≠ quote ∧ letter ≠ ' ' ∧ Mark.ofSign? letter = none

instance (letter : Char) : Decidable (IsBare letter) :=
  inferInstanceAs (Decidable (_ ∧ _ ∧ _))

/-- A word is bare if each of its letters is, which is decided without looking at others. -/
theorem isBare_of_all {letters : List Char}
    (bare : letters.all fun letter => decide (IsBare letter)) :
    ∀ letter ∈ letters, IsBare letter := by
  intro letter member
  exact of_decide_eq_true (List.all_eq_true.mp bare letter member)

theorem lexemes?_letters {letters : List Char} (plain : ∀ letter ∈ letters, IsBare letter)
    (seen : List Char) :
    lexemes? (.outside seen) (letters ++ rest) = lexemes? (.outside (seen ++ letters)) rest := by
  induction letters generalizing seen with
  | nil => rw [List.nil_append, List.append_nil]
  | cons letter letters ih =>
      rw [List.forall_mem_cons] at plain
      obtain ⟨notQuote, notSpace, notMark⟩ := plain.1
      rw [List.cons_append, lexemes?, if_neg notQuote, if_neg notSpace, notMark]
      dsimp only
      rw [ih plain.2, List.append_assoc, List.singleton_append]

/-- A word ends at the next mark. -/
theorem lexemes?_word {letters : List Char} (plain : ∀ letter ∈ letters, IsBare letter)
    (nonempty : letters ≠ []) (mark : Mark) :
    lexemes? (.outside []) (letters ++ mark.sign :: rest) =
      (lexemes? (.outside []) rest).map fun others => .word letters :: .mark mark :: others := by
  rw [lexemes?_letters plain, List.nil_append, lexemes?_mark]
  simp only [endWord_of_ne_nil nonempty]

end

/-! ## Letters of values -/

theorem isBare_of_isDigit {letter : Char} (digit : letter.isDigit = true) :
    IsBare letter := by
  refine ⟨?_, ?_, ?_⟩
  · rintro rfl
    revert digit
    decide
  · rintro rfl
    revert digit
    decide
  · rw [Mark.ofSign?, List.find?_eq_none]
    intro mark _ isSign
    rw [← of_decide_eq_true isSign] at digit
    revert digit
    cases mark <;> decide

/-- A number is written with digits, perhaps behind a minus sign. -/
theorem toList_text_int (number : Int) : ∃ natural : Nat,
    (Value.int number).text.toList = Nat.toDigits 10 natural ∨
      (Value.int number).text.toList = '-' :: Nat.toDigits 10 natural := by
  rw [Value.text, Int.toString_eq_repr, Int.repr_eq_if]
  split
  · exact ⟨_, .inl Nat.toList_repr⟩
  · refine ⟨(-number).toNat, .inr ?_⟩
    rw [String.toList_append, Nat.toList_repr]
    rfl

theorem digits_of_mem_int (number : Int) :
    ∀ letter ∈ (Value.int number).text.toList, letter.isDigit ∨ letter = '-' := by
  intro letter written
  have digit {natural : Nat} (member : letter ∈ Nat.toDigits 10 natural) : letter.isDigit :=
    Nat.isDigit_of_mem_toDigits (by decide) (by decide) member
  obtain ⟨natural, spelled | spelled⟩ := toList_text_int number <;> rw [spelled] at written
  · exact .inl (digit written)
  · rcases List.mem_cons.mp written with minus | written
    · exact .inr minus
    · exact .inl (digit written)

theorem isBare_of_mem_value (value : Value) :
    ∀ letter ∈ value.text.toList, IsBare letter := by
  cases value with
  | allowedTenants | selectedTenant => exact isBare_of_all (by decide)
  | bool value => cases value <;> exact isBare_of_all (by decide)
  | int number =>
      intro letter written
      rcases digits_of_mem_int number letter written with digit | rfl
      · exact isBare_of_isDigit digit
      · decide

@[simp] theorem Value.ofText?_text (value : Value) : ofText? value.text.toList = some value := by
  cases value with
  | allowedTenants | selectedTenant => rfl
  | bool value => cases value <;> rfl
  | int number =>
      have fixed : [Value.allowedTenants, .selectedTenant, .bool true, .bool false].find?
          (·.text.toList = (Value.int number).text.toList) = none := by
        have unlike : ∀ value ∈ [Value.allowedTenants, .selectedTenant, .bool true, .bool false],
            ¬ value.text.toList.all fun letter => letter.isDigit || letter = '-' := by
          decide
        rw [List.find?_eq_none]
        intro value listed same
        apply unlike value listed
        rw [of_decide_eq_true same, List.all_eq_true]
        intro letter written
        simpa using digits_of_mem_int number letter written
      rw [ofText?, fixed]
      dsimp only
      rw [String.ofList_toList, Value.text, Int.toString_eq_repr, Int.toInt?_repr, Option.map_some]

theorem Value.text_ne_nil (value : Value) : value.text.toList ≠ [] := by
  cases value with
  | allowedTenants | selectedTenant => decide
  | bool value => cases value <;> decide
  | int number =>
      obtain ⟨natural, spelled | spelled⟩ := toList_text_int number <;> rw [spelled]
      · exact Nat.toDigits_ne_nil
      · exact List.cons_ne_nil _ _

/-! ## From terms to pieces -/

/-- The pieces that a term is written with. -/
def Term.lexemes : Term → List Lexeme
  | .always =>
      [.mark .tupleOpens, .word ['1'], .mark .comma, .quoted ['='], .mark .comma, .word ['1'],
        .mark .tupleCloses]
  | .condition comparison =>
      [.mark .tupleOpens, .quoted comparison.field.toList, .mark .comma,
        .quoted comparison.relation.symbol.toList, .mark .comma,
        .word comparison.value.text.toList, .mark .tupleCloses]
  | .operator combinator => [.quoted (combinatorSign combinator).toList]

/-- Whether a term can be written: a quoted text ends at the next quote. -/
def Term.Quotable : Term → Prop
  | .condition comparison => quote ∉ comparison.field.toList
  | .always | .operator _ => True

theorem Relation.quote_notMem_symbol (relation : Relation) : quote ∉ relation.symbol.toList := by
  cases relation <;> decide

theorem quote_notMem_combinatorSign (combinator : Combinator) :
    quote ∉ (combinatorSign combinator).toList := by
  cases combinator <;> decide

/-- The text of a term is cut into the term's pieces. -/
theorem lexemes?_text {term : Term} (quotable : term.Quotable) (rest : List Char) :
    lexemes? (.outside []) (term.text.toList ++ rest) =
      (lexemes? (.outside []) rest).map (term.lexemes ++ ·) := by
  cases term with
  | always =>
      have spelled : Term.always.text.toList ++ rest =
          Mark.tupleOpens.sign :: (['1'] ++ Mark.comma.sign :: ' ' :: quote :: (['='] ++ quote ::
            Mark.comma.sign :: ' ' :: (['1'] ++ Mark.tupleCloses.sign :: rest))) := rfl
      have bare : ∀ letter ∈ ['1'], IsBare letter := isBare_of_all (by decide)
      rw [spelled, lexemes?_mark, lexemes?_word bare (by decide), lexemes?_space,
        lexemes?_quoted (by decide), lexemes?_mark, lexemes?_space,
        lexemes?_word bare (by decide)]
      simp only [Option.map_map, Function.comp_def, endWord_nil]
      rfl
  | condition comparison =>
      have spelled : (Term.condition comparison).text.toList ++ rest =
          Mark.tupleOpens.sign :: quote :: (comparison.field.toList ++ quote ::
            Mark.comma.sign :: quote :: (comparison.relation.symbol.toList ++ quote ::
              Mark.comma.sign ::
                (comparison.value.text.toList ++ Mark.tupleCloses.sign :: rest))) := by
        simp [Term.text, Condition.text, String.toList_append, toString, quote, Mark.sign]
      rw [spelled, lexemes?_mark, lexemes?_quoted quotable, lexemes?_mark,
        lexemes?_quoted comparison.relation.quote_notMem_symbol, lexemes?_mark,
        lexemes?_word (isBare_of_mem_value _) (Value.text_ne_nil _)]
      simp only [Option.map_map, Function.comp_def, endWord_nil]
      rfl
  | operator combinator =>
      have spelled : (Term.operator combinator).text.toList ++ rest =
          quote :: ((combinatorSign combinator).toList ++ quote :: rest) := by
        simp [Term.text, String.toList_append, toString, quote]
      rw [spelled, lexemes?_quoted (quote_notMem_combinatorSign combinator)]
      rfl

/-- A term at the front is read, and the list goes on behind it. -/
theorem terms?_lexemes_append (term : Term) (rest : List Lexeme) :
    terms? .term (term.lexemes ++ rest) = (terms? .separator rest).map (term :: ·) := by
  cases term with
  | always => simp [Term.lexemes, terms?, tuple?]
  | condition comparison => simp [Term.lexemes, terms?, tuple?]
  | operator combinator => simp [Term.lexemes, terms?]

/-- The pieces of a list of terms, to its end. -/
def listLexemes : List Term → List Lexeme
  | [] => [.mark .listCloses]
  | [term] => term.lexemes ++ [.mark .listCloses]
  | term :: next :: others => term.lexemes ++ .mark .comma :: listLexemes (next :: others)

/-- Terms between commas are cut into the pieces of the list. -/
theorem lexemes?_intercalate : (terms : List Term) → (∀ term ∈ terms, term.Quotable) →
    lexemes? (.outside []) (", ".toList.intercalate (terms.map (·.text.toList)) ++ [']']) =
      some (listLexemes terms) := by
  have spaced (rest : List Char) : ", ".toList ++ rest = Mark.comma.sign :: ' ' :: rest := rfl
  intro terms
  induction terms with
  | nil => intro _; rfl
  | cons term others ih =>
      intro quotable
      rw [List.forall_mem_cons] at quotable
      cases others with
      | nil =>
          rw [List.map_singleton, List.intercalate_singleton, lexemes?_text quotable.1]
          rfl
      | cons next others =>
          rw [List.map_cons, List.map_cons, List.intercalate_cons_cons, List.append_assoc,
            List.append_assoc, lexemes?_text quotable.1]
          have behind := ih quotable.2
          rw [List.map_cons] at behind
          rw [spaced, lexemes?_mark, lexemes?_space, behind]
          rfl

/-- A list of terms is read to its end. -/
theorem terms?_listLexemes : (terms : List Term) → terms ≠ [] →
    terms? .term (listLexemes terms) = some terms := by
  intro terms
  induction terms with
  | nil => intro nonempty; exact absurd rfl nonempty
  | cons term others ih =>
      intro _
      cases others with
      | nil =>
          rw [listLexemes, terms?_lexemes_append]
          rfl
      | cons next others =>
          rw [listLexemes, terms?_lexemes_append, terms?, ih (List.cons_ne_nil _ _)]
          rfl

theorem toList_domain (filter : Filter) :
    filter.domain.toList = Mark.listOpens.sign ::
      (", ".toList.intercalate (filter.terms.map (·.text.toList)) ++ [']']) := by
  simp [domain, String.toList_append, String.toList_intercalate, Mark.sign, Function.comp_def]

theorem list?_listLexemes (terms : List Term) :
    list? (.mark .listOpens :: listLexemes terms) = some terms := by
  cases terms with
  | nil => rfl
  | cons term others =>
      have inTerms : list? (.mark .listOpens :: listLexemes (term :: others)) =
          terms? .term (listLexemes (term :: others)) := by
        cases term <;> cases others <;> rfl
      rw [inTerms, terms?_listLexemes _ (List.cons_ne_nil _ _)]

/-- The text of a filter whose terms can be written is read as the terms. -/
theorem read?_domain_of_quotable {filter : Filter}
    (quotable : ∀ term ∈ filter.terms, term.Quotable) :
    read? filter.domain = some filter.terms := by
  rw [read?, toList_domain, lexemes?_mark, lexemes?_intercalate _ quotable]
  exact list?_listLexemes filter.terms

/-! ## What can be read at all -/

theorem quoted_mem_endWord {letters text : List Char} {lexemes : List Lexeme} :
    .quoted text ∈ endWord letters lexemes ↔ .quoted text ∈ lexemes := by
  rw [endWord]
  split
  · rfl
  · simp

/-- Whether no quote has been seen of a quoted text. -/
def Position.Plain : Position → Prop
  | .inside seen => quote ∉ seen
  | .outside _ => True

/-- No quoted text has a quote in it. -/
theorem quote_notMem_of_lexemes? {position : Position} {text : List Char}
    {lexemes : List Lexeme} (plain : position.Plain)
    (cut : lexemes? position text = some lexemes) :
    ∀ quotedText, .quoted quotedText ∈ lexemes → quote ∉ quotedText := by
  intro quotedText member
  fun_induction lexemes? position text generalizing lexemes with
  | case1 => cases cut
  | case2 seen rest ih =>
      obtain ⟨others, cutRest, rfl⟩ := Option.map_eq_some_iff.mp cut
      rcases List.mem_cons.mp member with isFirst | member
      · cases isFirst
        exact plain
      · exact ih trivial cutRest member
  | case3 seen letter rest notQuote ih =>
      apply ih _ cut member
      rw [Position.Plain, List.mem_append, List.mem_singleton]
      rintro (inSeen | isLetter)
      · exact plain inSeen
      · exact notQuote isLetter.symm
  | case4 seen =>
      cases cut
      rw [quoted_mem_endWord] at member
      cases member
  | case5 seen rest ih =>
      obtain ⟨others, cutRest, rfl⟩ := Option.map_eq_some_iff.mp cut
      exact ih List.not_mem_nil cutRest (quoted_mem_endWord.mp member)
  | case6 seen rest _ ih =>
      obtain ⟨others, cutRest, rfl⟩ := Option.map_eq_some_iff.mp cut
      exact ih trivial cutRest (quoted_mem_endWord.mp member)
  | case7 seen letter rest _ _ mark _ ih =>
      obtain ⟨others, cutRest, rfl⟩ := Option.map_eq_some_iff.mp cut
      rcases List.mem_cons.mp (quoted_mem_endWord.mp member) with isMark | member
      · cases isMark
      · exact ih trivial cutRest member
  | case8 seen letter rest _ _ _ ih => exact ih trivial cut member

theorem quoted_of_tuple? {field : Lexeme} {relation value : List Char} {comparison : Condition}
    (read : tuple? field relation value = some (.condition comparison)) :
    field = .quoted comparison.field.toList := by
  cases field with
  | quoted text =>
      simp only [tuple?, Option.bind_eq_bind, Option.bind_eq_some_iff] at read
      obtain ⟨_, _, _, _, made⟩ := read
      cases made
      rw [String.toList_ofList]
  | word constant =>
      rw [tuple?] at read
      split at read <;> cases read
  | mark mark => cases read

/-- The attributes of what has been read were quoted. -/
theorem quoted_of_terms? {slot : Slot} {lexemes : List Lexeme} {terms : List Term}
    (read : terms? slot lexemes = some terms) {comparison : Condition}
    (member : .condition comparison ∈ terms) : .quoted comparison.field.toList ∈ lexemes := by
  fun_induction terms? slot lexemes generalizing terms with
  | case1 =>
      cases read
      cases member
  | case2 rest ih => exact List.mem_cons_of_mem _ (ih read member)
  | case3 sign rest ih =>
      obtain ⟨combinator, _, behind⟩ := Option.bind_eq_some_iff.mp read
      obtain ⟨others, readRest, rfl⟩ := Option.map_eq_some_iff.mp behind
      rcases List.mem_cons.mp member with isOperator | member
      · cases isOperator
      · exact List.mem_cons_of_mem _ (ih readRest member)
  | case4 field relation value rest ih =>
      obtain ⟨term, made, behind⟩ := Option.bind_eq_some_iff.mp read
      obtain ⟨others, readRest, rfl⟩ := Option.map_eq_some_iff.mp behind
      rcases List.mem_cons.mp member with rfl | member
      · rw [quoted_of_tuple? made]
        simp
      · simp [ih readRest member]
  | case5 => cases read

theorem quoted_of_list? {lexemes : List Lexeme} {terms : List Term}
    (read : list? lexemes = some terms) {comparison : Condition}
    (member : .condition comparison ∈ terms) : .quoted comparison.field.toList ∈ lexemes := by
  rw [list?.eq_def] at read
  split at read
  · cases read
    cases member
  · exact List.mem_cons_of_mem _ (quoted_of_terms? read member)
  · cases read

/-- The text of a filter is read as the filter's terms if and only if no condition has a
quote in its attribute. -/
theorem read?_domain (filter : Filter) :
    read? filter.domain = some filter.terms ↔ ∀ term ∈ filter.terms, term.Quotable := by
  constructor
  · intro read term member
    obtain ⟨lexemes, cut, listed⟩ := Option.bind_eq_some_iff.mp read
    have outside : (Position.outside []).Plain := trivial
    cases term with
    | condition comparison =>
        exact quote_notMem_of_lexemes? outside cut _ (quoted_of_list? listed member)
    | always | operator _ => trivial
  · exact read?_domain_of_quotable

end TenantGuard.Filter
