import TenantGuard.Proofs.Engine.Run

/-!
# Work on a list

The engine handles lists one element after the other.  A chain tells what was done
with each element, from the state that the element before it left.
-/

namespace TenantGuard

variable {α β : Type}

/-- A list of inputs handled one after the other, each from the state that the one
before it left. -/
inductive Chain {σ : Type} (link : α → σ → β → σ → Prop) : List α → σ → List β → σ → Prop where
  | nil {state : σ} : Chain link [] state [] state
  | cons {input : α} {inputs : List α} {before between after : σ} {result : β}
      {results : List β} (first : link input before result between)
      (rest : Chain link inputs between results after) :
      Chain link (input :: inputs) before (result :: results) after

/-- What every link keeps, the chain keeps. -/
theorem Chain.invariant {σ : Type} {link : α → σ → β → σ → Prop} {inputs : List α}
    {before after : σ} {results : List β} (chain : Chain link inputs before results after)
    (holds : σ → Prop)
    (step : ∀ {input before result after}, link input before result after → holds before →
      holds after)
    (start : holds before) : holds after := by
  induction chain with
  | nil => exact start
  | cons first rest ih => exact ih (step first start)

/-- What the results have in common with their inputs, link by link. -/
theorem Chain.map_eq_map {σ γ : Type} {link : α → σ → β → σ → Prop} {inputs : List α}
    {before after : σ} {results : List β} (chain : Chain link inputs before results after)
    {ofInput : α → γ} {ofResult : β → γ}
    (same : ∀ {input before result after}, link input before result after →
      ofResult result = ofInput input) : results.map ofResult = inputs.map ofInput := by
  induction chain with
  | nil => rfl
  | cons first rest ih => rw [List.map_cons, List.map_cons, same first, ih]

/-- A chain gets to each of its inputs and goes on from there. -/
theorem Chain.at_input {σ : Type} {link : α → σ → β → σ → Prop} {inputs : List α}
    {before after : σ} {results : List β} (chain : Chain link inputs before results after)
    {input : α} (listed : input ∈ inputs) :
    ∃ done rest earlier result later between reached, inputs = done ++ input :: rest ∧
      (input, result) ∈ inputs.zip results ∧ Chain link done before earlier between ∧
      link input between result reached ∧ Chain link rest reached later after := by
  induction chain with
  | nil => cases listed
  | @cons other others _ _ _ first _ head tail ih =>
      rw [List.zip_cons_cons]
      rcases List.mem_cons.mp listed with rfl | listed
      · exact ⟨[], others, [], first, _, _, _, rfl, List.mem_cons_self, .nil, head, tail⟩
      · obtain ⟨done, rest, earlier, result, later, between, reached, rfl, paired, chain, linked,
          goesOn⟩ := ih listed
        exact ⟨other :: done, rest, first :: earlier, result, later, between, reached, rfl,
          List.mem_cons_of_mem _ paired, .cons head chain, linked, goesOn⟩

/-- Work on a list goes through all of it, or stops at one of its elements.  What
each step of the work does is told on a view of the sessions. -/
theorem Session.ensures_mapM {σ : Type} (view : Session → σ) {work : α → Step β}
    {inputs : List α} (link : α → σ → β → σ → Prop)
    (stop : α → σ → EngineError → σ → Prop)
    (steady : Session → Prop)
    (each : ∀ input session, steady session →
      session.Ensures (work input)
        (fun result after => link input (view session) result (view after) ∧ steady after)
        (fun error after => stop input (view session) error (view after)))
    {session : Session} (start : steady session) :
    session.Ensures (inputs.mapM work)
      (fun results after => Chain link inputs (view session) results (view after))
      (fun error after => ∃ done input rest results between, inputs = done ++ input :: rest ∧
        Chain link done (view session) results between ∧
        stop input between error (view after)) := by
  induction inputs generalizing session with
  | nil => exact Session.ensures_pure .nil
  | cons input inputs ih =>
      rw [List.mapM_cons]
      apply Session.ensures_bind
      apply (each input session start).imp
      · rintro result between ⟨first, goesOn⟩
        apply Session.ensures_bind
        apply (ih goesOn).imp
        · intro results after rest
          exact Session.ensures_pure (.cons first rest)
        · rintro _ after ⟨done, stopped, rest, results, before, rfl, chain, cut⟩
          exact ⟨input :: done, stopped, rest, result :: results, before, rfl,
            .cons first chain, cut⟩
      · intro _ after cut
        exact ⟨[], input, inputs, [], view session, rfl, .nil, cut⟩

/-- A fold over a list combines what its steps produce. -/
theorem Session.ensures_foldlM {σ γ : Type} (view : Session → σ) {work : γ → α → Step γ}
    {inputs : List α} (combine : γ → β → γ) (link : α → σ → β → σ → Prop)
    (steady : Session → Prop) (stops : EngineError → Session → Prop)
    (each : ∀ input ∈ inputs, ∀ reached session, steady session →
      session.Ensures (work reached input)
        (fun result after => ∃ produced, result = combine reached produced ∧
          link input (view session) produced (view after) ∧ steady after)
        stops)
    {start : γ} {session : Session} (started : steady session) :
    session.Ensures (inputs.foldlM work start)
      (fun result after => ∃ produced, result = produced.foldl combine start ∧
        Chain link inputs (view session) produced (view after) ∧ steady after)
      stops := by
  induction inputs generalizing start session with
  | nil => exact Session.ensures_pure ⟨[], rfl, .nil, started⟩
  | cons input inputs ih =>
      rw [List.forall_mem_cons] at each
      rw [List.foldlM_cons]
      apply Session.ensures_bind
      apply (each.1 start session started).imp
      · rintro _ between ⟨first, rfl, linked, goesOn⟩
        apply (ih each.2 goesOn).imp
        · rintro result after ⟨rest, rfl, chain, stillGoesOn⟩
          exact ⟨first :: rest, rfl, .cons linked chain, stillGoesOn⟩
        · intro _ after stopped
          exact stopped
      · intro _ after stopped
        exact stopped

end TenantGuard
