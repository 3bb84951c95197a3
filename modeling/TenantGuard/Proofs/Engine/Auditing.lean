import TenantGuard.Proofs.Engine.Aborting
import TenantGuard.Proofs.Engine.Failures
import TenantGuard.Proofs.Engine.Narration

/-!
# The trail and the store

The events of the entity types that did not fail name exactly the records that the store
gained, had rewritten and lost over a run.  What was done for the others is taken back, but
the events that told of it stay in the trail.

So the events of a whole run match the store exactly if no entity type failed after a change
to a record.
-/

namespace TenantGuard

/-- Whether the events of the action tell of changes to records. -/
def AuditAction.changesRecords : AuditAction → Bool
  | .created | .updated | .duplicatesRemoved => true
  | .conflictDetected | .externalIdRegistered | .externalIdCollision | .backfilled => false

/-- The events name the records that the store gained, had rewritten and lost, each once. -/
structure Recounts (events : List AuditEvent) (before after : Store) : Prop where
  gained : (AuditEvent.named .created events).Perm (before.gained after)
  rewritten : (AuditEvent.named .updated events).Perm (before.rewritten after)
  lost : (AuditEvent.named .duplicatesRemoved events).Perm (before.lost after)

namespace Recounts

variable {events others : List AuditEvent} {before after : Store}

/-- Another list of events recounts the same exactly if it names the same records. -/
theorem congr_iff (recounts : Recounts events before after) :
    Recounts others before after ↔ ∀ action : AuditAction, action.changesRecords →
      (AuditEvent.named action others).Perm (AuditEvent.named action events) := by
  constructor
  · intro recountsToo action changes
    cases action with
    | created => exact recountsToo.gained.trans recounts.gained.symm
    | updated => exact recountsToo.rewritten.trans recounts.rewritten.symm
    | duplicatesRemoved => exact recountsToo.lost.trans recounts.lost.symm
    | conflictDetected | externalIdRegistered | externalIdCollision | backfilled => cases changes
  · intro same
    exact ⟨(same .created rfl).trans recounts.gained, (same .updated rfl).trans recounts.rewritten,
      (same .duplicatesRemoved rfl).trans recounts.lost⟩

end Recounts

/-- The list names no changes beyond those of its part exactly if the rest of it names
none. -/
theorem named_perm_filter_iff {told : List (EntityOutcome × List AuditEvent)}
    (action : AuditAction) :
    (AuditEvent.named action (told.flatMap (·.2))).Perm
        (AuditEvent.named action ((told.filter (·.1.Unfailed)).flatMap (·.2))) ↔
      ∀ entry ∈ told, ¬ entry.1.Unfailed → AuditEvent.named action entry.2 = [] := by
  have split := ((List.filter_append_perm (fun entry : EntityOutcome × List AuditEvent =>
    decide entry.1.Unfailed) told).flatMap_right
      fun entry => AuditEvent.named action entry.2).symm
  rw [List.flatMap_append] at split
  rw [AuditEvent.named_flatMap, AuditEvent.named_flatMap]
  constructor
  · intro same entry listed failed
    have lengths := (split.symm.trans same).length_eq
    rw [List.length_append, Nat.add_eq_left, List.length_eq_zero_iff,
      List.flatMap_eq_nil_iff] at lengths
    apply lengths
    rw [List.mem_filter]
    exact ⟨listed, by simpa using failed⟩
  · intro none
    have nothing : (told.filter fun entry => !decide entry.1.Unfailed).flatMap
        (fun entry => AuditEvent.named action entry.2) = [] := by
      rw [List.flatMap_eq_nil_iff]
      intro entry listed
      rw [List.mem_filter] at listed
      exact none entry listed.1 (by simpa using listed.2)
    rw [nothing, List.append_nil] at split
    exact split

namespace Reconcile

variable {policy : Policy} {group : Option RecordId} {before after : Host}

/-- An entity type that failed lists no record, as long as its savepoint can be closed. -/
theorem EntityRun.records_of_failed {start outcome : EntityOutcome}
    {desired : List DesiredRecord} (run : EntityRun policy start desired before outcome after)
    (closes : ¬ before.Loses .releaseSavepoint) (noRecords : start.records = [])
    (unfailed : start.Unfailed) (failed : ¬ outcome.Unfailed) : outcome.records = [] := by
  cases run with
  | finished => exact absurd unfailed failed
  | unclosed lost => exact absurd lost closes
  | unopened | rolledBack | abandoned => exact noRecords

theorem records_of_failed_of_chain {entityTypes : List EntityType}
    {outcomes : List EntityOutcome}
    (chain : Chain (Reconciles policy group) entityTypes before outcomes after)
    (closes : ¬ before.Loses .releaseSavepoint) :
    ∀ outcome ∈ outcomes, ¬ outcome.Unfailed → outcome.records = [] := by
  induction chain with
  | nil => simp
  | cons first rest ih =>
      rw [List.forall_mem_cons]
      constructor
      · exact first.run.records_of_failed closes rfl fun _ => kind_of_startOutcome
      · exact ih fun lost => closes (first.continues.loses lost)

theorem PassRun.records_of_failed {summary : Summary}
    (pass : PassRun policy before summary after) (closes : ¬ before.Loses .releaseSavepoint) :
    ∀ outcome ∈ summary.outcomes, ¬ outcome.Unfailed → outcome.records = [] := by
  obtain ⟨start, outcomes, _, continues, chain, rfl⟩ := pass.steps
  rw [(Summary.foldl_absorb_rest _ _).2.2.1, List.nil_append]
  exact records_of_failed_of_chain chain fun lost => closes (continues.loses lost)

end Reconcile

/-- Events that name the records in the reports of a list that accounts for the difference
recount it. -/
theorem Accounted.recounts {policy : Policy} {list : List SettledRecord}
    {before after : Store} {events : List AuditEvent}
    (accounted : Accounted list before after) (formed : before.WellFormed)
    (sublist : (list.map (·.1)).Sublist (policy.allDesired before))
    (told : Told (list.map SettledRecord.report) events) : Recounts events before after := by
  have coherent : ∀ entry ∈ list, entry.1.Coherent := fun entry listed =>
    Policy.coherent_of_mem_allDesired (sublist.subset (List.mem_map_of_mem listed))
  have apart : (list.map (·.1)).Pairwise DesiredRecord.Apart :=
    (policy.flatMap_desiredRecords_apart _ formed.securedTypes_distinct).sublist sublist
  constructor
  · rw [told.created]
    exact accounted.perm_gained apart formed
  · rw [told.updated]
    exact accounted.perm_rewritten coherent apart formed
  · rw [told.removed]
    exact accounted.perm_lost apart formed

/-- The events of the entity types that did not fail name all the records that are listed. -/
theorem told_of_unfailed {told : List (EntityOutcome × List AuditEvent)}
    (each : ∀ entry ∈ told, entry.1.Unfailed → Told entry.1.records entry.2)
    (emptied : ∀ entry ∈ told, ¬ entry.1.Unfailed → entry.1.records = []) :
    Told ((told.map (·.1)).flatMap (·.records))
      ((told.filter (·.1.Unfailed)).flatMap (·.2)) := by
  induction told with
  | nil => exact .nil
  | cons entry others ih =>
      rw [List.forall_mem_cons] at each emptied
      have rest := ih each.2 emptied.2
      rw [List.map_cons, List.flatMap_cons]
      by_cases unfailed : entry.1.Unfailed
      · rw [List.filter_cons_of_pos (by simpa using unfailed), List.flatMap_cons]
        exact (each.1 unfailed).append rest
      · rw [List.filter_cons_of_neg (by simpa using unfailed), emptied.1 unfailed]
        exact rest

namespace Secure

variable {policy : Policy} {before : Host} {summary : Summary} {after : Store}

theorem Passes.recounts (passes : Passes policy before summary after)
    (savepoints : ∀ method : Method, method.worksOnSavepoints → ¬ before.Loses method)
    (formed : before.store.WellFormed) {told : List (EntityOutcome × List AuditEvent)}
    (ofSummary : told.map (·.1) = summary.outcomes)
    (each : ∀ entry ∈ told, entry.1.Unfailed → Told entry.1.records entry.2) :
    Recounts ((told.filter (·.1.Unfailed)).flatMap (·.2)) before.store after := by
  obtain ⟨_, _, _, goesOn, pass, _⟩ := passes.steps
  have emptied : ∀ entry ∈ told, ¬ entry.1.Unfailed → entry.1.records = [] := by
    intro entry listed
    apply pass.records_of_failed fun lost => savepoints _ rfl (goesOn.loses lost)
    rw [← ofSummary]
    exact List.mem_map_of_mem listed
  have named := told_of_unfailed each emptied
  obtain ⟨list, sublist, _, reported, accounted⟩ := passes.of_cumulative
    (Reconcile.cumulative_accounted policy) (fun same => .of_sameRecords same.toSameRecords)
    (.inl ⟨Reconcile.forgets_accounted, savepoints _ rfl⟩) formed
  rw [ofSummary, reported] at named
  exact accounted.recounts formed sublist named

end Secure

/-- Whichever calls fail, except for those on savepoints, a run with a summary adds to the
trail what happened to one entity type after the other, and to the tables.  The events of the
entity types that did not fail name the records that the store gained, had rewritten and lost,
each once.  All the events of the run do so exactly if those of the other entity types name no
change to a record. -/
theorem secure_recounts (policy : Policy) {session : Session}
    (reached : session.host.store.Reachable) (orderly : session.host.Orderly)
    (savepoints : ∀ method : Method, method.worksOnSavepoints → ¬ session.host.Loses method)
    {summary : Summary}
    (passed : (session.act (secure policy)).1.reconcile = some summary) :
    let before := session.host.store
    let after := (session.act (secure policy)).2
    ∃ (told : List (EntityOutcome × List AuditEvent)) (filled : List AuditEvent),
      told.map (·.1) = summary.outcomes ∧
      after.trail = session.trail ++ (told.flatMap (·.2) ++ filled) ∧
      (∀ entry ∈ told, ∀ event ∈ entry.2, event.subject = entry.1.entity) ∧
      (∀ event ∈ filled, event.action = .backfilled) ∧
      Recounts ((told.filter (·.1.Unfailed)).flatMap (·.2)) before after.host.store ∧
      (Recounts (told.flatMap (·.2) ++ filled) before after.host.store ↔
        ∀ entry ∈ told, ¬ entry.1.Unfailed → ∀ action : AuditAction, action.changesRecords →
          AuditEvent.named action entry.2 = []) := by
  intro before after
  obtain ⟨events, added, tells⟩ := secure_tells policy session
  obtain ⟨ofPass, filled, rfl, ⟨told, ofSummary, rfl, each⟩, ofTables⟩ := tells summary passed
  have runs : Secure.Runs policy session.host _ after.host.store :=
    secure_yields orderly policy
  have recounts := (runs.passes_of_summary passed).recounts savepoints reached.wellFormed
    ofSummary fun entry listed => (each entry listed).told
  refine ⟨told, filled, ofSummary, added.trail, fun entry listed => (each entry listed).subject,
    ofTables, recounts, ?_⟩
  have namedInPass : ∀ action : AuditAction, action.changesRecords →
      AuditEvent.named action (told.flatMap (·.2) ++ filled) =
        AuditEvent.named action (told.flatMap (·.2)) := by
    intro action changes
    rw [AuditEvent.named_append, AuditEvent.named_of_ne _ ofTables, List.append_nil]
    rintro rfl
    cases changes
  rw [recounts.congr_iff]
  constructor
  · intro same entry listed failed action changes
    have sameInPass := same action changes
    rw [namedInPass action changes, named_perm_filter_iff] at sameInPass
    exact sameInPass entry listed failed
  · intro none action changes
    rw [namedInPass action changes, named_perm_filter_iff]
    exact fun entry listed failed => none entry listed failed action changes

theorem secure_recounts_ungranted :
    let policy : Policy := { classifier := .empty, config := {} }
    let session : Session := { host := Store.foundedBehind .create 1 }
    let after := (session.act (secure policy)).2
    ∃ summary, (session.act (secure policy)).1.reconcile = some summary ∧
      ∃ (told : List (EntityOutcome × List AuditEvent)) (filled : List AuditEvent),
        told.map (·.1) = summary.outcomes ∧ after.trail = told.flatMap (·.2) ++ filled ∧
        (∀ entry ∈ told, ∀ event ∈ entry.2, event.subject = entry.1.entity) ∧
        (∀ event ∈ filled, event.action = .backfilled) ∧
        Recounts ((told.filter (·.1.Unfailed)).flatMap (·.2)) Store.founded after.host.store := by
  intro policy session after
  have passed : (session.act (secure policy)).1.reconcile.isSome := by decide +kernel
  obtain ⟨summary, reported⟩ := Option.isSome_iff_exists.mp passed
  have savepoints : ∀ method : Method, method.worksOnSavepoints → ¬ session.host.Loses method := by
    intro method onSavepoints lost
    rw [Store.foundedBehind_loses lost] at onSavepoints
    cases onSavepoints
  obtain ⟨told, filled, ofSummary, added, subjects, ofTables, recounts, _⟩ :=
    secure_recounts policy Store.founded_reachable (fun _ => .refl _) savepoints reported
  exact ⟨summary, reported, told, filled, ofSummary, added, subjects, ofTables, recounts⟩

/-- The second record cannot be created: the first one is taken back, and the trail still
names it as created. -/
theorem secure_recounts_taken_back :
    let policy : Policy := { classifier := .empty, config := {} }
    let session : Session := { host := Store.foundedBehind .create 1 }
    let after := (session.act (secure policy)).2
    Store.founded.Reachable ∧ (∀ method, session.host.Loses method → method = .create) ∧
      (session.act (secure policy)).1.reconcile.isSome ∧
      AuditEvent.named .created after.trail = [(.rule, 3)] ∧
      Store.founded.gained after.host.store = [] ∧
      ¬ Recounts after.trail Store.founded after.host.store := by
  intro policy session after
  have evaluated : (session.act (secure policy)).1.reconcile.isSome ∧
      AuditEvent.named .created after.trail = [(.rule, 3)] ∧
      Store.founded.gained after.host.store = [] := by
    decide +kernel
  obtain ⟨passed, named, gained⟩ := evaluated
  refine ⟨Store.founded_reachable, fun _ => Store.foundedBehind_loses, passed, named, gained, ?_⟩
  intro recounts
  have same := recounts.gained
  rw [named, gained] at same
  exact absurd same.eq_nil (List.cons_ne_nil _ _)

end TenantGuard
