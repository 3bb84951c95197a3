import TenantGuard.Proofs.Engine.AllSettled
import TenantGuard.Proofs.Engine.EntityType
import TenantGuard.Proofs.Engine.Totals

/-!
# The pass over the catalog

The pass lists the catalog, looks up the manager group and reconciles every entity
type but that of the rules.  Where no entity type reports a failure of the store,
every desired record of the catalog has been settled, and a second pass from there
settles them all again without changing a record.
-/

namespace TenantGuard

namespace Reconcile

/-- Names are compared by a total preorder on entity types, which is all that sorting needs. -/
theorem name_le_trans (first second third : EntityType)
    (le : decide (first.name ≤ second.name)) (leNext : decide (second.name ≤ third.name)) :
    decide (first.name ≤ third.name) :=
  decide_eq_true (String.le_trans (of_decide_eq_true le) (of_decide_eq_true leNext))

theorem name_le_total (first second : EntityType) :
    decide (first.name ≤ second.name) || decide (second.name ≤ first.name) := by
  simpa using String.le_total first.name second.name

end Reconcile

/-- The entity types that are secured, in the order in which they are. -/
def Store.securedTypes (store : Store) : List EntityType :=
  (Reconcile.ordered store.entityTypes).filter (·.name ≠ EntityType.ruleName)

theorem Store.mem_securedTypes {store : Store} {entityType : EntityType} :
    entityType ∈ store.securedTypes ↔
      entityType ∈ store.entityTypes ∧ entityType.name ≠ EntityType.ruleName := by
  rw [securedTypes, List.mem_filter, Reconcile.ordered, List.mem_mergeSort, decide_eq_true_eq]

/-- The secured entity types of a well-formed store have ids of their own. -/
theorem Store.WellFormed.securedTypes_distinct {store : Store} (formed : store.WellFormed) :
    (store.securedTypes.map (·.id)).Nodup := by
  have sorted : ((Reconcile.ordered store.entityTypes).map (·.id)).Nodup :=
    ((List.mergeSort_perm _ _).map _).nodup_iff.mpr formed.distinct
  exact (List.filter_sublist.map _).nodup sorted

/-- The manager group that a store holds. -/
def Policy.groupIn (policy : Policy) (store : Store) : Option RecordId :=
  policy.config.managerReference?.bind fun reference => store.groups[reference]?

/-- Every record that a store should hold, entity type by entity type. -/
def Policy.allDesired (policy : Policy) (store : Store) : List DesiredRecord :=
  store.securedTypes.flatMap (policy.desiredRecords · (policy.groupIn store))

/-- The records that a store should hold depend on its setting alone. -/
theorem Policy.allDesired_congr {policy : Policy} {before after : Store}
    (same : before.SameSetting after) : policy.allDesired after = policy.allDesired before := by
  rw [allDesired, allDesired, Store.securedTypes, Store.securedTypes, groupIn, groupIn,
    same.entityTypes, same.groups]

theorem Policy.coherent_of_mem_allDesired {policy : Policy} {store : Store}
    {desired : DesiredRecord} (wanted : desired ∈ policy.allDesired store) :
    desired.Coherent := by
  obtain ⟨_, _, ofEntityType⟩ := List.mem_flatMap.mp wanted
  exact coherent_of_mem_desiredRecords ofEntityType

namespace Reconcile

/-- One entity type of the pass. -/
structure Reconciles (policy : Policy) (group : Option RecordId) (entityType : EntityType)
    (before : Host) (outcome : EntityOutcome) (after : Host) : Prop where
  run : EntityRun policy (startOutcome policy entityType)
    (policy.desiredRecords entityType group) before outcome after
  continues : before.Continues after

/-- A pass that was not stopped. -/
structure PassRun (policy : Policy) (before : Host) (summary : Summary) (after : Host) :
    Prop where
  steps : ∃ start outcomes, start.store = before.store ∧ before.Continues start ∧
    Chain (Reconciles policy (policy.groupIn before.store)) before.store.securedTypes start
      outcomes after ∧
    summary = outcomes.foldl Summary.absorb { managerGroup := policy.groupIn before.store }

/-- Looking up the manager group leaves the store alone. -/
theorem managerGroup_ensures {session : Session} (policy : Policy) :
    session.Ensures (managerGroup policy)
      (fun group after => group = policy.groupIn session.host.store ∧
        after.host.store = session.host.store)
      (fun _ after => after.host.store = session.host.store ∧
        session.host.Loses .resolveGroup ∧
        after.host.failures = .resolveGroup :: session.host.failures) := by
  rw [managerGroup, Policy.groupIn]
  cases policy.config.managerReference? with
  | none =>
      apply Session.ensures_bind_warn
      intro warned sameHost
      apply Session.ensures_pure
      rw [sameHost]
      exact ⟨rfl, rfl⟩
  | some reference =>
      apply Session.ensures_bind
      apply Session.ensures_call
      · intro group looked answered
        have isGroup : group = session.host.store.groups[reference]? := answered.eq_arranged rfl
        have unchanged : looked.host.store = session.host.store := answered.store
        dsimp only
        split
        · apply Session.ensures_bind_warn
          intro warned sameHost
          apply Session.ensures_pure
          rw [sameHost]
          exact ⟨isGroup, unchanged⟩
        · exact Session.ensures_pure ⟨isGroup, unchanged⟩
      · intro _ after failed
        exact ⟨failed.store, failed.loses rfl, failed.failures⟩

/-- The pass goes over the whole catalog, unless the catalog cannot be listed or the
manager group cannot be looked up.  What is known of each entity type is told in a
chain. -/
theorem all_ensures_chain {session : Session} (policy : Policy)
    (link : EntityType → Host → EntityOutcome → Host → Prop)
    (each : ∀ entityType : EntityType, entityType.name ≠ EntityType.ruleName →
      ∀ reached : Session, session.host.Continues reached.host →
        reached.Yields (entity policy entityType (policy.groupIn session.host.store))
          fun outcome after => link entityType reached.host outcome after.host) :
    session.Ensures (all policy)
      (fun summary after => ∃ start outcomes, start.store = session.host.store ∧
        session.host.Continues start ∧
        Chain link session.host.store.securedTypes start outcomes after.host ∧
        summary = outcomes.foldl Summary.absorb
          { managerGroup := policy.groupIn session.host.store })
      (fun _ after => after.host.store = session.host.store ∧
        ∃ method : Method, (method = .entityTypes ∨ method = .resolveGroup) ∧
          session.host.Loses method ∧
          after.host.failures = method :: session.host.failures) := by
  rw [all]
  apply Session.ensures_bind
  apply Session.ensures_call
  · intro entities listed answered
    have isCatalog : entities = session.host.store.entityTypes := answered.eq_arranged rfl
    have unchanged : listed.host.store = session.host.store := answered.store
    rw [isCatalog]
    apply Session.ensures_bind
    apply ((managerGroup_ensures policy).and_keeps
      (keeps_managerGroup Host.Continues.kept policy)).imp
    · rintro group looked ⟨⟨rfl, stillUnchanged⟩, goesOn⟩
      have continues := answered.continues.trans goesOn
      rw [unchanged] at stillUnchanged ⊢
      apply (Session.ensures_foldlM (fun reached => reached.host) Summary.absorb link
        (fun reached => session.host.Continues reached.host) (fun _ _ => False) _
        continues).imp
      · rintro summary after ⟨outcomes, rfl, chain, _⟩
        exact ⟨looked.host, outcomes, stillUnchanged, continues, chain, rfl⟩
      · rintro _ after ⟨⟩
      · intro entityType secured reached between stillContinues
        have unlikeRules := (Store.mem_securedTypes.mp secured).2
        apply Session.ensures_bind
        apply Session.ensures_lift
        apply ((each entityType unlikeRules between stillContinues).and_keeps
          (keeps_entity Host.Continues.kept policy entityType _)).imp
        rintro outcome after ⟨linked, goesOnAfter⟩
        apply Session.ensures_pure
        exact ⟨outcome, rfl, linked, stillContinues.trans goesOnAfter⟩
    · rintro _ after ⟨⟨left, lost, failures⟩, _⟩
      rw [answered.failures] at failures
      exact ⟨left.trans unchanged, _, .inr rfl, answered.continues.loses lost, failures⟩
  · intro _ after failed
    exact ⟨failed.store, _, .inl rfl, failed.loses rfl, failed.failures⟩

theorem all_ensures {session : Session} (orderly : session.host.Orderly) (policy : Policy) :
    session.Ensures (all policy)
      (fun summary after => PassRun policy session.host summary after.host)
      (fun _ after => after.host.store = session.host.store ∧
        ∃ method : Method, (method = .entityTypes ∨ method = .resolveGroup) ∧
          session.host.Loses method ∧
          after.host.failures = method :: session.host.failures) := by
  apply (all_ensures_chain policy _ _).imp
  · intro summary after pass
    exact ⟨pass⟩
  · intro _ _ stopped
    exact stopped
  · intro entityType unlikeRules reached continues
    apply ((entity_yields (continues.orderly orderly) policy unlikeRules _).and_keeps
      (keeps_entity Host.Continues.kept policy entityType _)).imp
    rintro outcome after ⟨run, goesOn⟩
    exact ⟨run, goesOn⟩

variable {policy : Policy} {group : Option RecordId} {before after : Host}

/-- The host goes on as before while entity types are reconciled. -/
theorem continues_of_chain {entityTypes : List EntityType} {outcomes : List EntityOutcome}
    (chain : Chain (Reconciles policy group) entityTypes before outcomes after) :
    before.Continues after :=
  chain.invariant (fun reached => before.Continues reached)
    (fun reconciles goesOn => goesOn.trans reconciles.continues) (.refl _)

/-- Without a failure of the store every desired record was handled, and the
savepoint is closed again. -/
theorem EntityRun.chain_of_unfailed {start outcome : EntityOutcome}
    {desired : List DesiredRecord} (run : EntityRun policy start desired before outcome after)
    (unfailed : ∀ failure ∈ outcome.failures, failure.kind ≠ .store) :
    ∃ results reached, outcome.records = results.map (·.1) ∧
      Chain (DesiredRecord.Handles policy) desired (before.store.savepoint entitySavepoint)
        results reached ∧
      after.store = { reached with savepoints := before.store.savepoints } := by
  cases run with
  | finished chain left => exact ⟨_, _, rfl, chain, left⟩
  | unopened | unclosed | rolledBack | abandoned =>
      exact absurd rfl (unfailed _ (List.mem_append_right _ List.mem_cons_self))

theorem Refuses.rejects {desired : List DesiredRecord} {before : Store} {cause : StoreError}
    (refuses : Refuses policy desired before cause) : before.rejectedWrites ≠ [] := by
  obtain ⟨done, broken, rest, results, between, _, chain, refused⟩ := refuses
  rw [← (sameSetting_of_chain chain).rejectedWrites]
  exact refused.rejects

/-- Nothing fails unless something hinders the host. -/
theorem EntityRun.failures_of_unhindered {start outcome : EntityOutcome}
    {desired : List DesiredRecord} (run : EntityRun policy start desired before outcome after)
    (unhindered : ¬ before.Hindered) : outcome.failures = start.failures := by
  cases run with
  | finished => rfl
  | unopened lost | unclosed lost | abandoned lost => exact absurd (.inl ⟨_, lost⟩) unhindered
  | rolledBack obstructs => exact absurd (obstructs.hindered fun _ => Refuses.rejects) unhindered

theorem kind_of_startOutcome {entityType : EntityType} {failure : Failure}
    (listed : failure ∈ (startOutcome policy entityType).failures) : failure.kind ≠ .store := by
  rw [startOutcome] at listed
  dsimp only at listed
  split at listed
  · cases listed
  · rw [List.mem_singleton.mp listed]
    intro same
    cases same

/-- No entity type has a failure that the summary does not have. -/
theorem unfailed_of_summary {start : Summary} {outcomes : List EntityOutcome}
    (unfailed : ∀ failure ∈ (outcomes.foldl Summary.absorb start).failures,
      failure.kind ≠ .store) :
    ∀ outcome ∈ outcomes, ∀ failure ∈ outcome.failures, failure.kind ≠ .store := by
  intro outcome listed failure reported
  apply unfailed
  rw [(Summary.foldl_absorb_rest _ _).1]
  exact List.mem_append_right _ (List.mem_flatMap.mpr ⟨outcome, listed, reported⟩)

/-- The totals of a pass start from zero. -/
theorem adds_of_outcomes (managerGroup : Option RecordId) (outcomes : List EntityOutcome) :
    Summary.Adds {} ((outcomes.flatMap (·.records)).map (·.outcome))
      (outcomes.foldl Summary.absorb { managerGroup }) := by
  have adds := Summary.adds_foldl_absorb { managerGroup } outcomes
  exact ⟨adds.created, adds.updated, adds.unchanged, adds.duplicatesRemoved, adds.conflicts⟩

/-- The totals of a pass are those of the reports it lists. -/
theorem PassRun.adds {summary : Summary} (pass : PassRun policy before summary after) :
    Summary.Adds {} ((summary.outcomes.flatMap (·.records)).map (·.outcome)) summary := by
  obtain ⟨start, outcomes, _, _, _, rfl⟩ := pass.steps
  rw [(Summary.foldl_absorb_rest _ _).2.2.1, List.nil_append]
  exact adds_of_outcomes _ outcomes

/-- One entity type of a pass over settled records changes none of them. -/
theorem Reconciles.sameRecords {entityType : EntityType} {outcome : EntityOutcome}
    {list : List SettledRecord} {origin : Store}
    (reconciles : Reconciles policy group entityType before outcome after)
    (unfailed : ∀ failure ∈ outcome.failures, failure.kind ≠ .store)
    (desired : list.map (·.1) = policy.desiredRecords entityType group)
    (settled : ∀ entry ∈ list,
      entry.1.Settled (origin.matching entry.1) entry.2 (before.store.matching entry.1)) :
    before.store.SameRecords after.store ∧
      outcome.records.map (·.outcome) = list.map (·.2.repeated) := by
  obtain ⟨results, reached, reported, chain, left⟩ := reconciles.run.chain_of_unfailed unfailed
  have coherent : ∀ entry ∈ list, entry.1.Coherent := by
    intro entry membership
    apply Policy.coherent_of_mem_desiredRecords
    rw [← desired]
    exact List.mem_map_of_mem membership
  rw [← desired] at chain
  have opened := Store.SameRecords.opened before.store entitySavepoint
  have settledOpened : ∀ entry ∈ list, entry.1.Settled (origin.matching entry.1) entry.2
      ((before.store.savepoint entitySavepoint).matching entry.1) := by
    intro entry membership
    rw [opened.matching]
    exact settled entry membership
  obtain ⟨same, repeated⟩ := sameRecords_of_chain chain coherent settledOpened
  rw [left, reported, List.map_map]
  exact ⟨(opened.trans same).trans (.withSavepoints _ _), repeated⟩

/-- A pass over some entity types whose records are settled changes none of them. -/
theorem sameRecords_of_reconciles {entityTypes : List EntityType}
    {outcomes : List EntityOutcome} {list : List SettledRecord} {origin : Store}
    (chain : Chain (Reconciles policy group) entityTypes before outcomes after)
    (unfailed : ∀ outcome ∈ outcomes, ∀ failure ∈ outcome.failures, failure.kind ≠ .store)
    (desired : list.map (·.1) = entityTypes.flatMap (policy.desiredRecords · group))
    (settled : ∀ entry ∈ list,
      entry.1.Settled (origin.matching entry.1) entry.2 (before.store.matching entry.1)) :
    before.store.SameRecords after.store ∧
      (outcomes.flatMap (·.records)).map (·.outcome) = list.map (·.2.repeated) := by
  induction chain generalizing list with
  | nil =>
      rw [List.map_eq_nil_iff.mp desired]
      exact ⟨.refl _, rfl⟩
  | @cons _ _ _ between _ _ _ first rest ih =>
      rw [List.forall_mem_cons] at unfailed
      rw [List.flatMap_cons] at desired
      obtain ⟨here, there, rfl, desiredHere, desiredThere⟩ := List.map_eq_append_iff.mp desired
      rw [List.forall_mem_append] at settled
      obtain ⟨same, repeated⟩ := first.sameRecords unfailed.1 desiredHere settled.1
      have settledThere : ∀ entry ∈ there, entry.1.Settled (origin.matching entry.1) entry.2
          (between.store.matching entry.1) := by
        intro entry membership
        rw [same.matching]
        exact settled.2 entry membership
      obtain ⟨sameRest, repeatedRest⟩ := ih unfailed.2 desiredThere settledThere
      refine ⟨same.trans sameRest, ?_⟩
      rw [List.flatMap_cons, List.map_append, repeated, repeatedRest, List.map_append]

/-- A pass over a settled catalog changes no record: every record is found as it
was left, and the same conflicts are reported. -/
theorem PassRun.sameRecords {summary : Summary} {list : List SettledRecord} {origin : Store}
    (pass : PassRun policy before summary after)
    (unfailed : ∀ failure ∈ summary.failures, failure.kind ≠ .store)
    (desired : list.map (·.1) = policy.allDesired before.store)
    (settled : ∀ entry ∈ list,
      entry.1.Settled (origin.matching entry.1) entry.2 (before.store.matching entry.1)) :
    before.store.SameRecords after.store ∧
      (summary.outcomes.flatMap (·.records)).map (·.outcome) = list.map (·.2.repeated) := by
  obtain ⟨start, outcomes, sameStore, _, chain, rfl⟩ := pass.steps
  rw [← sameStore] at chain desired settled ⊢
  rw [(Summary.foldl_absorb_rest _ _).2.2.1, List.nil_append]
  exact sameRecords_of_reconciles chain (unfailed_of_summary unfailed) desired settled

/-- No entity type reports a failure of the store unless something hinders the
host. -/
theorem unfailed_of_unhindered {entityTypes : List EntityType} {outcomes : List EntityOutcome}
    (chain : Chain (Reconciles policy group) entityTypes before outcomes after)
    (unhindered : ¬ before.Hindered) :
    ∀ outcome ∈ outcomes, ∀ failure ∈ outcome.failures, failure.kind ≠ .store := by
  induction chain with
  | nil => simp
  | cons first rest ih =>
      rw [List.forall_mem_cons]
      constructor
      · intro failure reported
        rw [first.run.failures_of_unhindered unhindered] at reported
        exact kind_of_startOutcome reported
      · exact ih fun hindered => unhindered (first.continues.hindered hindered)

theorem PassRun.unfailed {summary : Summary} (pass : PassRun policy before summary after)
    (unhindered : ¬ before.Hindered) : ∀ failure ∈ summary.failures, failure.kind ≠ .store := by
  obtain ⟨start, outcomes, _, continues, chain, rfl⟩ := pass.steps
  intro failure reported
  rw [(Summary.foldl_absorb_rest _ _).1, List.nil_append, List.mem_flatMap] at reported
  obtain ⟨outcome, listed, reported⟩ := reported
  exact unfailed_of_unhindered chain (fun hindered => unhindered (continues.hindered hindered))
    outcome listed failure reported

/-- Nothing stops a pass unless a call is lost. -/
theorem all_returned {session : Session} (orderly : session.host.Orderly)
    (reliable : ∀ method, ¬ session.host.Loses method) (policy : Policy) :
    ∃ summary after, session.run (all policy) = (.ok summary, after) ∧
      PassRun policy session.host summary after.host := by
  apply (all_ensures orderly policy).returned
  rintro _ _ ⟨_, method, _, lost, _⟩
  exact reliable method lost

end Reconcile

end TenantGuard
