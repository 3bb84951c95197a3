/-!
# Computations that may stop with an error

A chain of computations succeeds exactly if each of its links does.  The
reduction of predicates, the compilation of rules and the calls of the engine are
all such chains, and their proofs take them apart link by link.
-/

namespace TenantGuard

variable {ε α β : Type}

theorem Except.bind_eq_ok {first : Except ε α} {next : α → Except ε β} {result : β} :
    (first >>= next) = .ok result ↔ ∃ value, first = .ok value ∧ next value = .ok result := by
  cases first with
  | error cause =>
      constructor
      · intro chained
        cases chained
      · rintro ⟨value, succeeded, _⟩
        cases succeeded
  | ok value =>
      constructor
      · intro chained
        exact ⟨value, rfl, chained⟩
      · rintro ⟨other, succeeded, chained⟩
        cases succeeded
        exact chained

theorem Except.bind_eq_error {first : Except ε α} {next : α → Except ε β} {cause : ε} :
    (first >>= next) = .error cause ↔
      first = .error cause ∨ ∃ value, first = .ok value ∧ next value = .error cause := by
  cases first with
  | error stopped =>
      constructor
      · rintro ⟨⟩
        exact .inl rfl
      · rintro (⟨⟨⟩⟩ | ⟨value, succeeded, _⟩)
        · rfl
        · cases succeeded
  | ok value =>
      constructor
      · intro chained
        exact .inr ⟨value, rfl, chained⟩
      · rintro (failed | ⟨other, succeeded, chained⟩)
        · cases failed
        · cases succeeded
          exact chained

/-- A check in front of a chain has to be passed. -/
theorem Except.bind_eq_ok_of_unit {check : Except ε Unit} {next : Unit → Except ε α} {result : α} :
    (check >>= next) = .ok result ↔ check = .ok () ∧ next () = .ok result := by
  rw [bind_eq_ok]
  exact ⟨fun ⟨_, passed, chained⟩ => ⟨passed, chained⟩,
    fun ⟨passed, chained⟩ => ⟨(), passed, chained⟩⟩

theorem Except.mapError_eq_ok {ε' : Type} {first : Except ε α} {change : ε → ε'} {value : α} :
    first.mapError change = .ok value ↔ first = .ok value := by
  cases first with
  | error cause =>
      constructor
      · intro succeeded
        cases succeeded
      · intro succeeded
        cases succeeded
  | ok value =>
      constructor
      · intro succeeded
        cases succeeded
        rfl
      · intro succeeded
        cases succeeded
        rfl

/-- Every element of a list succeeds, in order, if the list does. -/
theorem Except.mapM_eq_ok {work : α → Except ε β} {inputs : List α} {results : List β} :
    inputs.mapM work = .ok results ↔ inputs.map work = results.map .ok := by
  induction inputs generalizing results with
  | nil =>
      rw [List.mapM_nil, List.map_nil]
      constructor
      · intro finished
        cases finished
        rfl
      · intro same
        rw [List.map_eq_nil_iff.mp same.symm]
        rfl
  | cons input inputs ih =>
      rw [List.mapM_cons, Except.bind_eq_ok, List.map_cons]
      constructor
      · rintro ⟨result, first, chained⟩
        obtain ⟨rest, others, finished⟩ := Except.bind_eq_ok.mp chained
        cases finished
        rw [List.map_cons, first, ih.mp others]
      · intro same
        obtain ⟨result, rest, rfl, first, others⟩ := List.map_eq_cons_iff.mp same.symm
        refine ⟨result, first.symm, Except.bind_eq_ok.mpr ⟨rest, ih.mpr others.symm, rfl⟩⟩

/-- A list fails for the cause of its first element that fails. -/
theorem Except.mapM_eq_error {work : α → Except ε β} {inputs : List α} {cause : ε} :
    inputs.mapM work = .error cause ↔ ∃ earlier input later, inputs = earlier ++ input :: later ∧
      (∀ known ∈ earlier, ∃ result, work known = .ok result) ∧ work input = .error cause := by
  induction inputs with
  | nil =>
      rw [List.mapM_nil]
      constructor
      · intro failed
        cases failed
      · rintro ⟨earlier, input, later, split, _⟩
        exact absurd split.symm (by simp)
  | cons head inputs ih =>
      rw [List.mapM_cons, Except.bind_eq_error]
      constructor
      · rintro (failed | ⟨result, first, chained⟩)
        · exact ⟨[], head, inputs, rfl, by simp, failed⟩
        · rcases Except.bind_eq_error.mp chained with others | ⟨_, _, ⟨⟩⟩
          obtain ⟨earlier, input, later, rfl, succeeded, failed⟩ := ih.mp others
          exact ⟨head :: earlier, input, later, rfl,
            List.forall_mem_cons.mpr ⟨⟨result, first⟩, succeeded⟩, failed⟩
      · rintro ⟨earlier, input, later, split, succeeded, failed⟩
        cases earlier with
        | nil =>
            cases split
            exact .inl failed
        | cons known earlier =>
            cases split
            obtain ⟨⟨result, first⟩, succeeded⟩ := List.forall_mem_cons.mp succeeded
            have others := ih.mpr ⟨earlier, input, later, rfl, succeeded, failed⟩
            exact .inr ⟨result, first, Except.bind_eq_error.mpr (.inl others)⟩

end TenantGuard
