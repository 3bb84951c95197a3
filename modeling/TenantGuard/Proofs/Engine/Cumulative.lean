import TenantGuard.Proofs.Engine.Pass

/-!
# What adds up over a pass

Much of what can be said about a pass is said about a list of settled records, the
collisions of their identifiers, and the stores before and after.  If it holds of every
record that is handled, and of two lists behind one another whose keys are apart, it holds
of the whole pass.

The list of a pass holds the records of the entity types that were not given up.  Where
some were, it takes a relation that does not notice what has been taken back.
-/

namespace TenantGuard.Reconcile

/-- What is said about a list of settled records, the collisions of their identifiers and
the stores before and after. -/
abbrev Account := List SettledRecord → List IdentifierCollision → Store → Store → Prop

/-- What holds of the lists that are put together from handled records. -/
structure Cumulative (policy : Policy) (holds : Account) : Prop where
  idle : ∀ (store : Store) (savepoints : List Savepoint),
    holds [] [] store { store with savepoints }
  handled : ∀ {desired : DesiredRecord} {before after : Store}
      {result : RecordReport × Option IdentifierCollision},
    desired.Handles policy before result after → desired.Coherent → before.WellFormed →
      holds [(desired, result.1.outcome)] result.2.toList before after
  append : ∀ {first second : List SettledRecord} {collisions others : List IdentifierCollision}
      {before between after : Store},
    holds first collisions before between → holds second others between after →
      (∀ entry ∈ first, ∀ later ∈ second, entry.1.Apart later.1) →
        holds (first ++ second) (collisions ++ others) before after

/-- Where the data are as they were there is nothing to tell. -/
def Account.Forgets (holds : Account) : Prop :=
  ∀ {before after : Store}, after.data = before.data → before.lastId ≤ after.lastId →
    holds [] [] before after

namespace Cumulative

variable {policy : Policy} {holds : Account} {group : Option RecordId}

/-- What adds up over handled records adds up over a list of them. -/
theorem of_chain (cumulative : Cumulative policy holds) {desired : List DesiredRecord}
    {before after : Store} {results : List (RecordReport × Option IdentifierCollision)}
    (chain : Chain (DesiredRecord.Handles policy) desired before results after)
    (coherent : ∀ record ∈ desired, record.Coherent)
    (apart : desired.Pairwise DesiredRecord.Apart) (formed : before.WellFormed) :
    ∃ list : List SettledRecord, list.map (·.1) = desired ∧
      results.map (·.1) = list.map SettledRecord.report ∧
      holds list (results.filterMap (·.2)) before after := by
  induction chain with
  | @nil store => exact ⟨[], rfl, rfl, cumulative.idle store store.savepoints⟩
  | @cons record others _ _ _ result results first rest ih =>
      rw [List.forall_mem_cons] at coherent
      rw [List.pairwise_cons] at apart
      obtain ⟨list, sameRecords, reported, told⟩ :=
        ih coherent.2 apart.2 (first.wellFormed formed)
      have collisions : (result :: results).filterMap (·.2) =
          result.2.toList ++ results.filterMap (·.2) := by
        rw [List.filterMap_cons]
        cases result.2 with
        | none => rfl
        | some collision => rfl
      refine ⟨(record, result.1.outcome) :: list, ?_, ?_, ?_⟩
      · rw [List.map_cons, sameRecords]
      · rw [List.map_cons, reported, List.map_cons, first.reported]
        rfl
      · rw [collisions]
        apply cumulative.append (cumulative.handled first coherent.1 formed) told
        intro entry membership later listed
        rw [List.mem_singleton.mp membership]
        apply apart.1
        rw [← sameRecords]
        exact List.mem_map_of_mem listed

/-- Opening a savepoint before and closing it after makes no difference. -/
theorem congr (cumulative : Cumulative policy holds) {list : List SettledRecord}
    {collisions : List IdentifierCollision} {before after : Store}
    (earlier later : List Savepoint)
    (told : holds list collisions { before with savepoints := earlier } after) :
    holds list collisions before { after with savepoints := later } := by
  have both := cumulative.append
    (cumulative.append (cumulative.idle before earlier) told (by simp))
    (cumulative.idle after later) (by simp)
  rw [List.nil_append, List.append_nil, List.nil_append, List.append_nil] at both
  exact both

/-- Two accounts of the same list. -/
theorem and {others : Account} (cumulative : Cumulative policy holds)
    (cumulativeToo : Cumulative policy others) :
    Cumulative policy fun list collisions before after =>
      holds list collisions before after ∧ others list collisions before after where
  idle := fun store savepoints =>
    ⟨cumulative.idle store savepoints, cumulativeToo.idle store savepoints⟩
  handled := fun handles coherent formed =>
    ⟨cumulative.handled handles coherent formed, cumulativeToo.handled handles coherent formed⟩
  append := fun first second apart =>
    ⟨cumulative.append first.1 second.1 apart, cumulativeToo.append first.2 second.2 apart⟩

variable {before after : Host}

/-- What adds up over handled records holds of an entity type and its outcome, unless
something could not be taken back. -/
theorem of_reconciles (cumulative : Cumulative policy holds) {entityType : EntityType}
    {outcome : EntityOutcome} (reconciles : Reconciles policy group entityType before outcome after)
    (kept : (holds.Forgets ∧ ¬ before.Loses .rollbackToSavepoint) ∨
      ∀ failure ∈ outcome.failures, failure.kind ≠ .store)
    (formed : before.store.WellFormed) :
    ∃ list : List SettledRecord,
      (list.map (·.1)).Sublist (policy.desiredRecords entityType group) ∧
      ((∀ failure ∈ outcome.failures, failure.kind ≠ .store) →
        list.map (·.1) = policy.desiredRecords entityType group) ∧
      outcome.records = list.map SettledRecord.report ∧
      holds list outcome.collisions before.store after.store := by
  have lastId_le := reconciles.continues.setting.lastId_le
  have handled : ∀ {results reached},
      Chain (DesiredRecord.Handles policy) (policy.desiredRecords entityType group)
        (before.store.savepoint entitySavepoint) results reached →
      ∀ savepoints : List Savepoint,
        ∃ list : List SettledRecord, list.map (·.1) = policy.desiredRecords entityType group ∧
          results.map (·.1) = list.map SettledRecord.report ∧
          holds list (results.filterMap (·.2)) before.store { reached with savepoints } := by
    intro results reached chain savepoints
    obtain ⟨list, sameRecords, reported, told⟩ := cumulative.of_chain chain
      (fun _ => Policy.coherent_of_mem_desiredRecords) (policy.desiredRecords_apart _ _)
      (formed.call (.savepoint entitySavepoint))
    exact ⟨list, sameRecords, reported, cumulative.congr _ _ told⟩
  -- An entity type that was given up has a failure of the store and leaves nothing behind.
  have givenUp : ∀ {failures : List Failure} {failure : Failure} {store : Store},
      failure.kind = .store → failure ∈ failures → store.data = before.store.data →
      before.store.lastId ≤ store.lastId →
      ((holds.Forgets ∧ ¬ before.Loses .rollbackToSavepoint) ∨
        ∀ failure ∈ failures, failure.kind ≠ .store) →
      ∃ list : List SettledRecord,
        (list.map (·.1)).Sublist (policy.desiredRecords entityType group) ∧
        ((∀ failure ∈ failures, failure.kind ≠ .store) →
          list.map (·.1) = policy.desiredRecords entityType group) ∧
        [] = list.map SettledRecord.report ∧ holds list [] before.store store := by
    intro failures failure store ofStore listed sameData idsGrow kept
    rcases kept with ⟨forgets, _⟩ | unfailed
    · exact ⟨[], List.nil_sublist _, fun unfailed => absurd ofStore (unfailed _ listed), rfl,
        forgets sameData idsGrow⟩
    · exact absurd ofStore (unfailed _ listed)
  have run := reconciles.run
  cases run with
  | finished chain left =>
      obtain ⟨list, sameRecords, reported, told⟩ := handled chain before.store.savepoints
      rw [left]
      exact ⟨list, sameRecords ▸ .refl _, fun _ => sameRecords, reported, told⟩
  | unclosed lost chain =>
      obtain ⟨list, sameRecords, reported, told⟩ := handled chain after.store.savepoints
      exact ⟨list, sameRecords ▸ .refl _, fun _ => sameRecords, reported, told⟩
  | unopened lost left =>
      exact givenUp rfl (List.mem_append_right _ List.mem_cons_self) (by rw [left]) lastId_le kept
  | rolledBack hindered breaks left =>
      exact givenUp rfl (List.mem_append_right _ List.mem_cons_self) (by rw [left]) lastId_le kept
  | abandoned lost breaks =>
      rcases kept with ⟨_, goesBack⟩ | unfailed
      · exact absurd lost goesBack
      · exact absurd rfl (unfailed _ (List.mem_append_right _ List.mem_cons_self))

theorem of_chain_of_reconciles (cumulative : Cumulative policy holds)
    {entityTypes : List EntityType} {outcomes : List EntityOutcome}
    (chain : Chain (Reconciles policy group) entityTypes before outcomes after)
    (kept : (holds.Forgets ∧ ¬ before.Loses .rollbackToSavepoint) ∨
      ∀ outcome ∈ outcomes, ∀ failure ∈ outcome.failures, failure.kind ≠ .store)
    (apart : (entityTypes.flatMap (policy.desiredRecords · group)).Pairwise DesiredRecord.Apart)
    (formed : before.store.WellFormed) :
    ∃ list : List SettledRecord,
      (list.map (·.1)).Sublist (entityTypes.flatMap (policy.desiredRecords · group)) ∧
      ((∀ outcome ∈ outcomes, ∀ failure ∈ outcome.failures, failure.kind ≠ .store) →
        list.map (·.1) = entityTypes.flatMap (policy.desiredRecords · group)) ∧
      outcomes.flatMap (·.records) = list.map SettledRecord.report ∧
      holds list (outcomes.flatMap (·.collisions)) before.store after.store := by
  induction chain with
  | @nil host =>
      exact ⟨[], List.nil_sublist _, fun _ => rfl, rfl,
        cumulative.idle host.store host.store.savepoints⟩
  | cons first rest ih =>
      rw [List.flatMap_cons, List.pairwise_append] at apart
      obtain ⟨list, sublist, complete, reported, told⟩ := cumulative.of_reconciles first
        (kept.imp_right fun unfailed => unfailed _ List.mem_cons_self) formed
      obtain ⟨others, sublistRest, completeRest, reportedRest, toldRest⟩ :=
        ih (kept.imp
            (fun ⟨forgets, goesBack⟩ =>
              ⟨forgets, fun lost => goesBack (first.continues.loses lost)⟩)
            fun unfailed _ listed => unfailed _ (List.mem_cons_of_mem _ listed))
          apart.2.1 (first.continues.wellFormed formed)
      refine ⟨list ++ others, ?_, ?_, ?_, ?_⟩
      · rw [List.map_append, List.flatMap_cons]
        exact sublist.append sublistRest
      · rw [List.forall_mem_cons]
        rintro ⟨unfailed, unfailedRest⟩
        rw [List.map_append, complete unfailed, completeRest unfailedRest, List.flatMap_cons]
      · rw [List.flatMap_cons, reported, reportedRest, List.map_append]
      · rw [List.flatMap_cons]
        apply cumulative.append told toldRest
        intro entry membership later listed
        exact apart.2.2 _ (sublist.subset (List.mem_map_of_mem membership)) _
          (sublistRest.subset (List.mem_map_of_mem listed))

/-- What adds up over handled records holds of a pass and its summary, unless something
could not be taken back.  Without a failure of the store the list is that of all desired
records. -/
theorem of_pass (cumulative : Cumulative policy holds) {summary : Summary}
    (pass : PassRun policy before summary after)
    (kept : (holds.Forgets ∧ ¬ before.Loses .rollbackToSavepoint) ∨
      ∀ failure ∈ summary.failures, failure.kind ≠ .store)
    (formed : before.store.WellFormed) :
    ∃ list : List SettledRecord,
      (list.map (·.1)).Sublist (policy.allDesired before.store) ∧
      ((∀ failure ∈ summary.failures, failure.kind ≠ .store) →
        list.map (·.1) = policy.allDesired before.store) ∧
      summary.outcomes.flatMap (·.records) = list.map SettledRecord.report ∧
      holds list summary.collisions before.store after.store := by
  obtain ⟨start, outcomes, sameStore, continues, chain, rfl⟩ := pass.steps
  rw [← sameStore] at chain formed ⊢
  rw [(Summary.foldl_absorb_rest _ _).2.1, (Summary.foldl_absorb_rest _ _).2.2.1,
    List.nil_append, List.nil_append]
  obtain ⟨list, sublist, complete, reported, told⟩ := cumulative.of_chain_of_reconciles chain
    (kept.imp
      (fun ⟨forgets, goesBack⟩ => ⟨forgets, fun lost => goesBack (continues.loses lost)⟩)
      unfailed_of_summary)
    (policy.flatMap_desiredRecords_apart _ formed.securedTypes_distinct) formed
  exact ⟨list, sublist, fun unfailed => complete (unfailed_of_summary unfailed), reported, told⟩

end Cumulative

/-- The outcomes are those of the reports. -/
theorem outcomes_of_reports {reports : List RecordReport} {list : List SettledRecord}
    (reported : reports = list.map SettledRecord.report) :
    reports.map (·.outcome) = list.map (·.2) := by
  rw [reported, List.map_map]
  rfl

end TenantGuard.Reconcile
