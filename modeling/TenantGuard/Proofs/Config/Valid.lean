import TenantGuard.Config.Validity
import TenantGuard.Proofs.Except
import TenantGuard.Proofs.Predicate.Spelling

/-!
# Valid configurations

A configuration is valid if none of its settings is refused.  In particular it writes the
manager group as a module and a name, and that is how the engine reads it: the two agree
although the check cuts at every dot and the reader at the first one, since neither part of
a checked reference has a dot.
-/

namespace TenantGuard

theorem refuseIf_eq_ok {fault : Bool} {error : ConfigError} :
    refuseIf fault error = .ok () ↔ fault = false := by
  cases fault <;> simp [refuseIf]

theorem Config.validate_eq_ok_iff {config : Config} :
    config.validate = .ok () ↔ config.tenancy.validate = .ok () ∧
      isSymbolicReference config.managerGroup = true ∧
      (config.externalIds.enabled = true → Text.blank config.externalIds.module = false) ∧
      Text.blank config.backfill.column = false ∧ 0 < config.backfill.defaultTenant := by
  simp [validate, Except.bind_eq_ok_of_unit, refuseIf_eq_ok]

/-- Settings that keep the built-in overrides are valid if they name an attribute. -/
theorem TenancySettings.validate_builtin {defaultField : String}
    (named : Text.blank defaultField = false) :
    ({ defaultField } : TenancySettings).validate = .ok () := by
  have overrides : TenantFields.builtin.toList =
      [("res.company", ⟨"id", "id"⟩), ("res.users", ⟨"company_ids", "company_id"⟩)] := by
    decide +kernel
  rw [validate, overrides, named]
  rfl

/-- A configuration that sets nothing but the backfill is valid if its column is named and its
tenant positive. -/
theorem Config.validate_of_backfill {settings : BackfillSettings}
    (named : Text.blank settings.column = false) (positive : 0 < settings.defaultTenant) :
    ({ backfill := settings } : Config).validate = .ok () := by
  have symbolic : isSymbolicReference ({} : Config).managerGroup = true := by decide +kernel
  have module : Text.blank ({} : Config).externalIds.module = false := by decide +kernel
  exact validate_eq_ok_iff.mpr
    ⟨TenancySettings.validate_builtin (by decide), symbolic, fun _ => module, named, positive⟩

/-- No word contains a dot. -/
theorem dot_notMem_of_all_isWordLetter {word : List Char} (plain : word.all isWordLetter) :
    '.' ∉ word := by
  intro member
  have letter : isWordLetter '.' = true := List.all_eq_true.mp plain '.' member
  revert letter
  decide

/-- A reference is read as it was written, if its module has no dot. -/
theorem Reference.ofText?_text {reference : Reference}
    (plain : '.' ∉ reference.module.toList) : ofText? reference.text = some reference := by
  have written : reference.text.toList =
      reference.module.toList ++ '.' :: reference.name.toList := by
    simp [text, String.toList_append, toString]
  have beforeDot : ∀ letter ∈ reference.module.toList, decide (letter ≠ '.') = true := by
    intro letter member
    rw [decide_eq_true_eq]
    rintro rfl
    exact plain member
  rw [ofText?, written, List.dropWhile_append_of_pos beforeDot,
    List.takeWhile_append_of_pos beforeDot]
  simp

/-- Two words with a dot between them are a reference that is written like this. -/
theorem Reference.of_isSymbolicReference {text : String} (symbolic : isSymbolicReference text) :
    ∃ reference : Reference, reference.text = text ∧ reference.module ≠ "" ∧
      reference.name ≠ "" ∧ '.' ∉ reference.module.toList := by
  rw [isSymbolicReference] at symbolic
  split at symbolic
  next module name cut =>
    simp only [Bool.and_eq_true, Bool.not_eq_true', List.isEmpty_eq_false_iff] at symbolic
    obtain ⟨⟨⟨moduleNonempty, nameNonempty⟩, plain⟩, _⟩ := symbolic
    refine ⟨⟨String.ofList module, String.ofList name⟩, ?_, ?_, ?_, ?_⟩
    · rw [← String.toList_inj, ← Text.joined_pieces '.' text.toList, cut]
      simp [Reference.text, String.toList_append, toString, Text.joined]
    · simpa using moduleNonempty
    · simpa using nameNonempty
    · rw [String.toList_ofList]
      exact dot_notMem_of_all_isWordLetter plain
  next => cases symbolic

/-- A valid configuration names its manager group, and by what it says. -/
theorem Config.managerReference?_of_validate {config : Config} (valid : config.validate = .ok ()) :
    ∃ reference, config.managerReference? = some reference ∧ reference.module ≠ "" ∧
      reference.name ≠ "" ∧ reference.text = config.managerGroup := by
  obtain ⟨reference, written, moduleNonempty, nameNonempty, plain⟩ :=
    Reference.of_isSymbolicReference (validate_eq_ok_iff.mp valid).2.1
  refine ⟨reference, ?_, moduleNonempty, nameNonempty, written⟩
  rw [managerReference?, ← written]
  exact Reference.ofText?_text plain

end TenantGuard
