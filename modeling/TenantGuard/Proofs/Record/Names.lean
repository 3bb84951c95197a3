import TenantGuard.Record.Desired

/-!
# Names of records

The name of a record is that of its entity type and a suffix that says which of its records is
meant.  Entity types may be called anything, also like a record of another one, but no suffix
ends in a different one.  The name therefore tells both parts.
-/

namespace TenantGuard

namespace Text

/-- No word of the list ends in a different one. -/
def SuffixFree (words : List String) : Prop :=
  ∀ first ∈ words, ∀ second ∈ words, first.toList <:+ second.toList → first = second

instance (words : List String) : Decidable (SuffixFree words) :=
  inferInstanceAs (Decidable (∀ first ∈ words, ∀ second ∈ words,
    first.toList <:+ second.toList → first = second))

/-- A text that ends in a word of the list tells what stands in front of the word. -/
theorem SuffixFree.append_inj {words : List String} (free : SuffixFree words)
    {stem otherStem suffix otherSuffix : String} (known : suffix ∈ words)
    (otherKnown : otherSuffix ∈ words) (same : stem ++ suffix = otherStem ++ otherSuffix) :
    stem = otherStem ∧ suffix = otherSuffix := by
  have sameLetters : stem.toList ++ suffix.toList = otherStem.toList ++ otherSuffix.toList := by
    simpa only [String.toList_append] using congrArg String.toList same
  have ends : suffix.toList <:+ otherStem.toList ++ otherSuffix.toList := ⟨_, sameLetters⟩
  have otherEnds : otherSuffix.toList <:+ otherStem.toList ++ otherSuffix.toList := ⟨_, rfl⟩
  have sameSuffix : suffix = otherSuffix := by
    rcases List.suffix_or_suffix_of_suffix ends otherEnds with inOther | otherIn
    · exact free _ known _ otherKnown inOther
    · exact (free _ otherKnown _ known otherIn).symm
  subst sameSuffix
  exact ⟨String.toList_inj.mp (List.append_cancel_right sameLetters), rfl⟩

end Text

namespace DesiredRecord

/-- What follows the entity type in the name of a global rule. -/
def ruleSuffix (securityClass : SecurityClass) (mode : AccessMode) : String :=
  s!" - {securityClass.ruleLabel}, {mode.ruleLabel}"

/-- What follows the entity type in the name of a record. -/
def nameSuffixes : List String :=
  " - company manager" ::
    SecurityClass.all.flatMap fun securityClass =>
      [.read, .edit, .readAndEdit].map (ruleSuffix securityClass)

theorem nameSuffixes_suffixFree : Text.SuffixFree nameSuffixes := by
  decide +kernel

theorem globalRuleName_eq (entity : String) (rule : Rule) :
    globalRuleName entity rule = entity ++ ruleSuffix rule.securityClass rule.mode := by
  simp [globalRuleName, ruleSuffix, toString, String.append_assoc]

theorem ruleSuffix_mem (securityClass : SecurityClass) (mode : AccessMode) :
    ruleSuffix securityClass mode ∈ nameSuffixes := by
  apply List.mem_cons_of_mem
  apply List.mem_flatMap.mpr
  refine ⟨securityClass, securityClass.mem_all, List.mem_map_of_mem ?_⟩
  cases mode with
  | read | edit | readAndEdit => simp

end DesiredRecord

end TenantGuard
