import TenantGuard.Predicate.Structure
import TenantGuard.Proofs.Except

/-!
# Spelling a token list

No word contains the character that stands between words, so a text is cut where it was
joined, and joined where it was cut.  The main statement is that reading undoes spelling in
both directions: the texts that are read as tokens are exactly the spellings of nonempty
token lists, and in any other text the first word outside the vocabulary is reported.
-/

namespace TenantGuard

namespace Text

variable {separator : Char} {piece : List Char} {parts : List (List Char)}

/-- A stretch without the separator is one piece. -/
theorem pieces_of_not_mem (whole : separator ∉ piece) : pieces separator piece = [piece] := by
  induction piece with
  | nil => rfl
  | cons letter letters ih =>
      rw [List.mem_cons, not_or] at whole
      rw [pieces, if_neg (Ne.symm whole.1), ih whole.2]

/-- The first separator ends the first piece. -/
theorem pieces_append_separator (whole : separator ∉ piece) (rest : List Char) :
    pieces separator (piece ++ separator :: rest) = piece :: pieces separator rest := by
  induction piece with
  | nil => rw [List.nil_append, pieces, if_pos rfl]
  | cons letter letters ih =>
      rw [List.mem_cons, not_or] at whole
      rw [List.cons_append, pieces, if_neg (Ne.symm whole.1), ih whole.2]

/-- What was joined from pieces without the separator is cut into them again. -/
theorem pieces_joined (nonempty : parts ≠ []) (whole : ∀ piece ∈ parts, separator ∉ piece) :
    pieces separator (joined separator parts) = parts := by
  induction parts with
  | nil => exact absurd rfl nonempty
  | cons first others ih =>
      rw [List.forall_mem_cons] at whole
      cases others with
      | nil => exact pieces_of_not_mem whole.1
      | cons second others =>
          rw [joined, pieces_append_separator whole.1, ih (List.cons_ne_nil _ _) whole.2]

theorem separator_notMem_of_mem_pieces {text : List Char} (cut : piece ∈ pieces separator text) :
    separator ∉ piece := by
  induction text generalizing piece with
  | nil =>
      rw [List.mem_singleton.mp cut]
      exact List.not_mem_nil
  | cons letter letters ih =>
      rw [pieces] at cut
      split at cut
      · rcases List.mem_cons.mp cut with rfl | later
        · exact List.not_mem_nil
        · exact ih later
      next unlike =>
        split at cut
        · rw [List.mem_singleton.mp cut, List.mem_singleton]
          exact Ne.symm unlike
        next first others pieces =>
          rw [pieces] at ih
          rcases List.mem_cons.mp cut with rfl | later
          · rw [List.mem_cons, not_or]
            exact ⟨Ne.symm unlike, ih List.mem_cons_self⟩
          · exact ih (List.mem_cons_of_mem first later)

theorem joined_eq_intercalate (separator : Char) (parts : List (List Char)) :
    joined separator parts = [separator].intercalate parts := by
  induction parts with
  | nil => rfl
  | cons first others ih =>
      cases others with
      | nil => exact List.intercalate_singleton.symm
      | cons second others =>
          rw [joined, ih, List.intercalate_cons_cons, List.append_assoc, List.singleton_append]

/-- Words without a space, joined by spaces, are the words of their text. -/
theorem words_intercalate {words : List String} (nonempty : words ≠ [])
    (whole : ∀ word ∈ words, ' ' ∉ word.toList) : Text.words (" ".intercalate words) = words := by
  have cut : pieces ' ' (" ".intercalate words).toList = words.map String.toList := by
    rw [String.toList_intercalate]
    change pieces ' ' ([' '].intercalate _) = _
    rw [← joined_eq_intercalate]
    apply pieces_joined
    · simpa using nonempty
    · simpa using whole
  rw [Text.words, cut, List.map_map]
  simp [Function.comp_def]

theorem words_ne_nil (text : String) : Text.words text ≠ [] := by
  simp [Text.words, pieces_ne_nil]

/-- The words of a text are exactly those that it is joined from. -/
theorem words_eq_iff {text : String} {words : List String} :
    Text.words text = words ↔
      words ≠ [] ∧ (∀ word ∈ words, ' ' ∉ word.toList) ∧ " ".intercalate words = text := by
  constructor
  · rintro rfl
    refine ⟨words_ne_nil text, ?_, ?_⟩
    · intro word isWord
      obtain ⟨piece, cut, rfl⟩ := List.mem_map.mp isWord
      rw [String.toList_ofList]
      exact separator_notMem_of_mem_pieces cut
    · apply String.toList_inj.mp
      rw [String.toList_intercalate, Text.words, List.map_map]
      change [' '].intercalate _ = _
      rw [← joined_eq_intercalate]
      simpa [Function.comp_def] using joined_pieces ' ' text.toList
  · rintro ⟨nonempty, whole, rfl⟩
    exact words_intercalate nonempty whole

end Text

namespace Predicate

theorem Token.space_notMem_word (token : Token) : ' ' ∉ token.word.toList := by
  have everywhere : ∀ token ∈ Token.vocabulary, ' ' ∉ token.word.toList := by decide
  exact everywhere token token.mem_vocabulary

/-- The spelling of a nonempty token list has the words of its tokens. -/
theorem words_spell {tokens : List Token} (nonempty : tokens ≠ []) :
    Text.words (Token.spell tokens) = tokens.map Token.word := by
  apply Text.words_intercalate
  · simpa using nonempty
  · simpa using fun token _ => token.space_notMem_word

/-- The spelling of a token list is read as the list. -/
theorem tokenize_spell {tokens : List Token} (nonempty : tokens ≠ []) :
    tokenize (Token.spell tokens) = .ok tokens := by
  rw [tokenize, words_spell nonempty, Except.mapM_eq_ok, List.map_map]
  apply List.map_congr_left
  intro token _
  simp

variable {source word : String} {tokens : List Token}

theorem ofWord?_eq_none_iff : Token.ofWord? word = none ↔ ∀ token : Token, token.word ≠ word := by
  constructor
  · rintro unknown token rfl
    simp at unknown
  · intro unknown
    cases found : Token.ofWord? word with
    | none => rfl
    | some token => exact absurd (Token.word_of_ofWord? found) (unknown token)

/-- Words that are read one by one as tokens with these words are the words of the tokens. -/
theorem words_of_read {read : String → Except GrammarError Token}
    (faithful : ∀ word token, read word = .ok token → token.word = word) {words : List String}
    (succeeded : words.map read = tokens.map .ok) : words = tokens.map Token.word := by
  induction words generalizing tokens with
  | nil => rw [List.map_eq_nil_iff.mp succeeded.symm, List.map_nil]
  | cons word words ih =>
      obtain ⟨token, others, rfl, first, behind⟩ := List.map_eq_cons_iff.mp succeeded.symm
      rw [List.map_cons, faithful word token first.symm, ← ih behind.symm]

theorem words_of_tokenize (tokenized : tokenize source = .ok tokens) :
    Text.words source = tokens.map Token.word := by
  rw [tokenize, Except.mapM_eq_ok] at tokenized
  refine words_of_read (fun word token read => ?_) tokenized
  split at read
  next found =>
    cases read
    exact Token.word_of_ofWord? found
  next => cases read

/-- Exactly the spellings of nonempty token lists are read as tokens. -/
theorem tokenize_eq_ok_iff :
    tokenize source = .ok tokens ↔ tokens ≠ [] ∧ Token.spell tokens = source := by
  constructor
  · intro tokenized
    have words := words_of_tokenize tokenized
    obtain ⟨nonempty, _, joined⟩ := Text.words_eq_iff.mp words
    exact ⟨by simpa using nonempty, joined⟩
  · rintro ⟨nonempty, rfl⟩
    exact tokenize_spell nonempty

/-- Reading fails exactly at the first word outside the vocabulary. -/
theorem tokenize_eq_error_iff {fault : GrammarError} :
    tokenize source = .error fault ↔ ∃ before word behind,
      Text.words source = before ++ word :: behind ∧
      (∀ known ∈ before, ∃ token : Token, token.word = known) ∧
      (∀ token : Token, token.word ≠ word) ∧
      fault = .unknownWord word (Text.words source) := by
  rw [tokenize, Except.mapM_eq_error]
  refine exists_congr fun before => exists_congr fun word => exists_congr fun behind =>
    and_congr_right fun _ => and_congr (forall₂_congr fun known _ => ?_) ?_
  · constructor
    · rintro ⟨token, read⟩
      split at read
      next found => exact ⟨_, Token.word_of_ofWord? found⟩
      next => cases read
    · rintro ⟨token, rfl⟩
      exact ⟨token, by rw [Token.ofWord?_word]⟩
  · rw [← ofWord?_eq_none_iff]
    cases Token.ofWord? word <;> simp [eq_comm]

/-- Reading undoes spelling in both directions: a text is read as a token list exactly if the
list is not empty and its words, joined by single spaces, are the text.  Any other text has a
first word between single spaces that is the word of no token, and the error names that word
together with all the words of the text. -/
theorem tokenize_inverts_spell :
    (∀ source tokens, tokenize source = .ok tokens ↔
        tokens ≠ [] ∧ " ".intercalate (tokens.map Token.word) = source) ∧
      ∀ source fault, tokenize source = .error fault ↔ ∃ before word behind,
        (∀ piece ∈ before ++ word :: behind, ' ' ∉ piece.toList) ∧
        " ".intercalate (before ++ word :: behind) = source ∧
        (∀ known ∈ before, ∃ token : Token, token.word = known) ∧
        (∀ token : Token, token.word ≠ word) ∧
        fault = .unknownWord word (before ++ word :: behind) ∧
        fault.message = "unknown token '" ++ word ++ "' in [" ++
          ", ".intercalate (before ++ word :: behind) ++ "]" := by
  refine ⟨fun source tokens => tokenize_eq_ok_iff, fun source fault => ?_⟩
  rw [tokenize_eq_error_iff]
  refine exists_congr fun before => exists_congr fun word => exists_congr fun behind => ?_
  constructor
  · rintro ⟨cut, known, unknown, rfl⟩
    obtain ⟨_, whole, joined⟩ := Text.words_eq_iff.mp cut
    rw [cut]
    exact ⟨whole, joined, known, unknown, rfl, rfl⟩
  · rintro ⟨whole, joined, known, unknown, rfl, _⟩
    have cut := Text.words_eq_iff.mpr ⟨by simp, whole, joined⟩
    exact ⟨cut, known, unknown, by rw [cut]⟩

/-- Two spaces in a row enclose an empty word, which no token has. -/
example : tokenize "false  AND" = .error (.unknownWord "" ["false", "", "AND"]) := by
  rfl

end Predicate

end TenantGuard
