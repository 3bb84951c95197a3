import TenantGuard.Proofs.Engine.Convergence
import TenantGuard.Proofs.Engine.Failures

/-!
# Failures of an entity type

A call that fails while the records of an entity type are written ends the work on
this entity type alone.  Everything done for it is taken back, provided that the
calls that open and close its savepoint go through, its outcome lists no record, and
the pass goes on with the next entity type.
-/

namespace TenantGuard

/-- Calls that fail are added to those that failed before. -/
theorem Host.failures_kept :
    Host.Kept fun before after => before.failures <:+ after.failures where
  refl := fun host => List.suffix_refl host.failures
  trans := List.IsSuffix.trans
  perform := by
    intro host α request
    rw [Host.perform]
    split
    · exact List.suffix_cons _ _
    · split
      · exact List.suffix_refl _
      · exact List.suffix_cons _ _

namespace Reconcile

/-- An entity type that was given up: it left the data and the savepoints as they
were, and its outcome tells nothing but that. -/
structure GivenUp (start : EntityOutcome) (before : Store) (outcome : EntityOutcome)
    (after : Store) : Prop where
  data : after.data = before.data
  savepoints : after.savepoints = before.savepoints
  reported : ∃ detail, outcome =
    { start with failures := start.failures ++ [⟨start.entity, .store, detail⟩] }

/-- What is known of an entity type whose calls failed: it is named, and given up if
a call on records failed and none on savepoints. -/
structure Contained (start : EntityOutcome) (before : Host) (outcome : EntityOutcome)
    (after : Host) : Prop where
  entity : outcome.entity = start.entity
  givenUp : ∃ failed : List Method, after.failures = failed ++ before.failures ∧
    ((∃ method ∈ failed, method.worksOnRecords) →
      (∀ method ∈ failed, ¬ method.worksOnSavepoints) →
        GivenUp start before.store outcome after.store)

variable {start outcome : EntityOutcome} {before after : Host}

theorem Contained.of_unfailed (named : outcome.entity = start.entity)
    (unfailed : after.failures = before.failures) : Contained start before outcome after where
  entity := named
  givenUp := ⟨[], unfailed, by rintro ⟨_, ⟨⟩, _⟩⟩

/-- Nothing is promised once a savepoint could not be opened or closed. -/
theorem Contained.of_savepoint (named : outcome.entity = start.entity) {method : Method}
    (onSavepoints : method.worksOnSavepoints) (others : List Method)
    (failures : after.failures = method :: others ++ before.failures) :
    Contained start before outcome after where
  entity := named
  givenUp := ⟨_, failures, fun _ none => absurd onSavepoints (none method List.mem_cons_self)⟩

theorem closeEntity_failures {session : Session} (entity : String) (call : Call Unit) :
    session.Yields (closeEntity entity call) fun _ after =>
      after.host.failures = session.host.failures ∨
      after.host.failures = call.method :: session.host.failures := by
  rw [closeEntity]
  apply Session.yields_bind
  apply Session.yields_attempt
  apply Session.ensures_call
  · rintro ⟨⟩ after answered
    exact Session.yields_pure (.inl answered.failures)
  · intro error after failed
    apply Session.yields_bind
    apply (storeFailure_yields entity error).imp
    rintro failure warned ⟨_, sameHost⟩
    apply Session.yields_pure
    rw [sameHost]
    exact .inr failed.failures

/-- The first call on records that fails is the last one, and what was done before it is
taken back. -/
theorem records_contained {session : Session} (policy : Policy) (start : EntityOutcome)
    (desired : List DesiredRecord) :
    session.Yields (records policy start desired) fun outcome after =>
      Contained start session.host outcome after.host := by
  rw [records]
  apply Session.yields_bind
  apply Session.yields_attempt
  apply Session.ensures_call
  · rintro ⟨⟩ opened answered
    have saved : opened.host.store = session.host.store.savepoint entitySavepoint :=
      answered.store
    have worked := holds_mapM_one Step.candid_compositional policy start.entity desired opened
    rw [answered.failures] at worked
    apply Session.yields_bind
    apply Session.yields_attempt
    apply worked.imp
    · rintro results handled ⟨unfailed, _⟩
      apply Session.yields_bind
      apply (closeEntity_failures start.entity _).imp
      rintro closing closed closes
      apply Session.yields_pure
      rw [unfailed] at closes
      rcases closes with stillUnfailed | failures
      · exact .of_unfailed rfl stillUnfailed
      · exact .of_savepoint rfl rfl [] failures
    · rintro error stopped ⟨⟨method, onRecords, failures⟩, sameSavepoints⟩
      apply Session.yields_bind
      apply (storeFailure_yields start.entity error).imp
      rintro failure warned ⟨rfl, sameHost⟩
      apply Session.yields_bind
      apply Session.yields_attempt
      -- The work opened and closed no savepoint, so its own is still the latest one.
      have found : Store.popTo? entitySavepoint warned.host.store.savepoints =
          some (session.host.store.data, session.host.store.savepoints) := by
        rw [sameHost, sameSavepoints, saved, Store.savepoint, Store.popTo?_head]
      apply Session.ensures_call
      · -- Going back restores the data and closes the savepoint.
        rintro ⟨⟩ restored answeredRollback
        have left := answeredRollback.store
        rw [Call.run_rollbackToSavepoint found] at left
        apply Session.yields_bind_warn
        intro logged sameHostAgain
        apply Session.yields_bind
        apply Session.yields_pure
        apply Session.yields_pure
        rw [sameHostAgain]
        refine ⟨rfl, [method], ?_, fun _ _ => ?_⟩
        · rw [answeredRollback.failures, sameHost, failures]
          rfl
        · rw [left]
          exact ⟨rfl, rfl, error.message, rfl⟩
      · intro closing unrestored failed
        apply Session.yields_bind_warn
        intro logged sameHostAgain
        apply Session.yields_bind
        apply (storeFailure_yields start.entity closing).imp
        rintro closingFailure closed ⟨rfl, sameHostLast⟩
        apply Session.yields_bind
        apply Session.yields_pure
        apply Session.yields_pure
        rw [sameHostLast, sameHostAgain]
        have failuresLast := failed.failures
        rw [sameHost, failures] at failuresLast
        exact .of_savepoint rfl rfl [method] failuresLast
  · intro error after failed
    apply Session.yields_bind
    apply (storeFailure_yields start.entity error).imp
    rintro failure warned ⟨rfl, sameHost⟩
    apply Session.yields_pure
    rw [sameHost]
    exact .of_savepoint rfl rfl [] failed.failures

/-- The rules of an entity type always compile, so that nothing but the store can
fail. -/
theorem entity_contained {session : Session} (policy : Policy) (entityType : EntityType)
    (group : Option RecordId) :
    session.Yields (entity policy entityType group) fun outcome after =>
      Contained ⟨entityType.name, policy.classifier.classify entityType.name, [], [], []⟩
        session.host outcome after.host := by
  obtain ⟨rules, compiled⟩ := Rule.compile_succeeds entityType.name
    (policy.classifier.classify entityType.name) policy.config.tenancy
  rw [entity]
  dsimp only
  split
  · exact Session.yields_pure (.of_unfailed rfl rfl)
  · rw [compiled]
    dsimp only
    rw [entity.run]
    split
    · exact Session.yields_pure (.of_unfailed rfl rfl)
    · exact records_contained policy _ _

end Reconcile

namespace Store

/-- The names of the secured entity types are those of the catalog, but for that of
the rules. -/
theorem securedTypes_names_perm (store : Store) :
    (store.securedTypes.map (·.name)).Perm
      ((store.entityTypes.map (·.name)).filter (· ≠ EntityType.ruleName)) := by
  rw [List.filter_map, securedTypes]
  apply List.Perm.map
  exact (List.mergeSort_perm _ _).filter _

/-- The entity types are secured in ascending order of their names. -/
theorem securedTypes_names_ascending (store : Store) :
    (store.securedTypes.map (·.name)).Pairwise (· ≤ ·) := by
  have sorted := List.pairwise_mergeSort Reconcile.name_le_trans Reconcile.name_le_total
    store.entityTypes
  rw [List.pairwise_map]
  exact (sorted.imp of_decide_eq_true).filter _

end Store

namespace Reconcile

theorem all_outcomes {session : Session} (policy : Policy) :
    session.Ensures (all policy)
      (fun summary _ =>
        summary.outcomes.map (·.entity) = session.host.store.securedTypes.map (·.name))
      (fun _ after => ∃ method : Method, (method = .entityTypes ∨ method = .resolveGroup) ∧
        after.host.failures = method :: session.host.failures) := by
  apply (all_ensures_chain policy
    (fun entityType _ outcome _ => outcome.entity = entityType.name) _).imp
  · rintro summary after ⟨start, outcomes, _, _, chain, rfl⟩
    rw [(Summary.foldl_absorb_rest _ _).2.2.1, List.nil_append]
    exact chain.map_eq_map id
  · rintro error after ⟨_, method, named, _, failures⟩
    exact ⟨method, named, failures⟩
  · intro entityType _ reached _
    apply (entity_contained policy entityType _).imp
    intro outcome after contained
    exact contained.entity

/-- Whichever calls on records fail while an entity type is reconciled, as long as none
on savepoints does, the data and the savepoints are as before, and its outcome is one
failure of the store.  Whatever fails in a pass, once the catalog is listed and the
manager group looked up the summary has one outcome for each entity type of the catalog
but that of the rules, in ascending order of their names. -/
theorem entity_gives_up_all_goes_on (policy : Policy) (session : Session) :
    (∀ (entityType : EntityType) (group : Option RecordId),
      let outcome := (session.act (entity policy entityType group)).1
      let after := (session.act (entity policy entityType group)).2
      ∃ failed : List Method, after.host.failures = failed ++ session.host.failures ∧
        ((∃ method ∈ failed, method.worksOnRecords) →
          (∀ method ∈ failed, ¬ method.worksOnSavepoints) →
            after.host.store.data = session.host.store.data ∧
            after.host.store.savepoints = session.host.store.savepoints ∧
            outcome.records = [] ∧ outcome.collisions = [] ∧
            ∃ detail, outcome.failures = [⟨entityType.name, .store, detail⟩])) ∧
    (let after := (session.run (all policy)).2
      ∃ failed : List Method, after.host.failures = failed ++ session.host.failures ∧
        (.entityTypes ∉ failed → .resolveGroup ∉ failed →
          ∃ summary, (session.run (all policy)).1 = .ok summary ∧
            (summary.outcomes.map (·.entity)).Perm
              ((session.host.store.entityTypes.map (·.name)).filter
                (· ≠ EntityType.ruleName)) ∧
            (summary.outcomes.map (·.entity)).Pairwise (· ≤ ·))) := by
  constructor
  · intro entityType group outcome after
    have contained := @entity_contained session policy entityType group
    obtain ⟨failed, failures, givesUp⟩ := contained.givenUp
    refine ⟨failed, failures, ?_⟩
    intro onRecords notOnSavepoints
    obtain ⟨data, savepoints, detail, reported⟩ := givesUp onRecords notOnSavepoints
    exact ⟨data, savepoints, congrArg _ reported, congrArg _ reported, detail,
      congrArg _ reported⟩
  · intro after
    obtain ⟨failed, failures⟩ := keeps_all Host.failures_kept policy session
    refine ⟨failed, failures.symm, ?_⟩
    intro listed looked
    have outcomes := @all_outcomes session policy
    obtain ⟨summary, reached, ran⟩ | ⟨error, reached, ran⟩ :=
      session.returns_or_stops (all policy)
    · rw [Session.ensures_of_returned ran] at outcomes
      refine ⟨summary, congrArg Prod.fst ran, ?_⟩
      rw [outcomes]
      exact ⟨session.host.store.securedTypes_names_perm,
        session.host.store.securedTypes_names_ascending⟩
    · rw [Session.ensures_of_stopped ran] at outcomes
      obtain ⟨method, named, stopped⟩ := outcomes
      have failedHere : failed = [method] := by
        rw [ran, stopped] at failures
        exact List.append_cancel_right failures
      rcases named with rfl | rfl
      · simp [failedHere] at listed
      · simp [failedHere] at looked

/-- The disputed store behind a host that loses the second record to be created. -/
def disrupted : Host where
  store := disputed
  schedule := Schedule.none.arm .create 1 false (.unreachable ["connection lost"])

theorem entity_gives_up_all_goes_on_disrupted :
    let policy : Policy := { classifier := .empty, config := {} }
    let session : Session := { host := disrupted }
    let outcome := (session.act (entity policy ⟨1, "res.partner"⟩ (some 2))).1
    let after := (session.act (entity policy ⟨1, "res.partner"⟩ (some 2))).2
    after.host.failures = [.create] ∧
      after.host.store.data = disputed.data ∧
      after.host.store.savepoints = disputed.savepoints ∧
      outcome.records = [] ∧ outcome.collisions = [] ∧
      (∃ detail, outcome.failures = [⟨"res.partner", .store, detail⟩]) ∧
      ∃ summary, (session.run (all policy)).1 = .ok summary ∧
        (summary.outcomes.map (·.entity)).Perm ["res.partner"] ∧
        (summary.outcomes.map (·.entity)).Pairwise (· ≤ ·) := by
  intro policy session outcome after
  obtain ⟨gives, goes⟩ := entity_gives_up_all_goes_on policy session
  obtain ⟨failed, failures, givesUp⟩ := gives ⟨1, "res.partner"⟩ (some 2)
  have lost : after.host.failures = [.create] := by decide +kernel
  have isCreate : failed = [.create] := by
    rw [← List.append_nil failed, ← lost]
    exact failures.symm
  obtain ⟨failedInPass, failuresOfPass, goesOn⟩ := goes
  have lostInPass : (session.run (all policy)).2.host.failures = [.create] := by
    decide +kernel
  have isCreateInPass : failedInPass = [.create] := by
    rw [← List.append_nil failedInPass, ← lostInPass]
    exact failuresOfPass.symm
  obtain ⟨data, savepoints, records, collisions, reported⟩ :=
    givesUp (by simp [isCreate, Method.worksOnRecords])
      (by simp [isCreate, Method.worksOnSavepoints])
  exact ⟨lost, data, savepoints, records, collisions, reported,
    goesOn (by simp [isCreateInPass]) (by simp [isCreateInPass])⟩

end Reconcile

end TenantGuard
