import TenantGuard.Proofs.Engine.Accounts

/-!
# Convergence

After a pass in which no call of the store failed, every desired record of the
catalog is there: one active record is found by its key and carries its values.
The only exception is a conflict, which is reported and left as it was.  This holds
for all stores that the public operations can build, whichever calls the host may
lose and in whichever order it lists ids.
-/

namespace TenantGuard

namespace Reconcile

variable {policy : Policy} {before : Host} {desired : DesiredRecord}

/-- A pass without a failure of the store has settled every desired record of the
catalog, and its totals are those of their outcomes. -/
theorem PassRun.settled {summary : Summary} {after : Host}
    (pass : PassRun policy before summary after)
    (unfailed : ∀ failure ∈ summary.failures, failure.kind ≠ .store)
    (formed : before.store.WellFormed) :
    ∃ list, list.map (·.1) = policy.allDesired before.store ∧
      Summary.Adds {} (list.map (·.2)) summary ∧
      AllSettled list before.store after.store := by
  obtain ⟨list, sublist, complete, reported, accounted⟩ := pass.accounted (.inr unfailed) formed
  have coherent : ∀ entry ∈ list, entry.1.Coherent := fun entry listed =>
    Policy.coherent_of_mem_allDesired (sublist.subset (List.mem_map_of_mem listed))
  refine ⟨list, complete unfailed, ?_, accounted.allSettled coherent⟩
  rw [← outcomes_of_reports reported]
  exact pass.adds

/-- What a pass leaves under the key of a desired record. -/
theorem standing_or_conflict_of_settled {found left : RecordTable} {outcome : RecordOutcome}
    (settled : desired.Settled found outcome left) :
    (∃ id values, left.toList = [(id, values)] ∧ desired.CarriedBy values) ∨
      outcome.conflict? = some (desired.conflictOf found) ∧ left = found ∧ 2 ≤ found.size := by
  cases settled with
  | @standing _ id values _ carried =>
      exact .inl ⟨id, values, RecordTable.toList_single, carried⟩
  | conflicting several => exact .inr ⟨rfl, rfl, several⟩

/-- The desired records of a secured entity type are among all desired ones. -/
theorem mem_allDesired {store : Store} {entityType : EntityType}
    (listed : entityType ∈ store.entityTypes) (secured : entityType.name ≠ EntityType.ruleName)
    (wanted : desired ∈ policy.desiredRecords entityType (policy.groupIn store)) :
    desired ∈ policy.allDesired store :=
  List.mem_flatMap.mpr ⟨entityType, Store.mem_securedTypes.mpr ⟨listed, secured⟩, wanted⟩

/-- A pass without a failure of the store leaves one record or a conflict under the
key of every desired record of the catalog. -/
theorem PassRun.standing_or_conflict {summary : Summary} {after : Host}
    (pass : PassRun policy before summary after)
    (unfailed : ∀ failure ∈ summary.failures, failure.kind ≠ .store)
    (formed : before.store.WellFormed) (wanted : desired ∈ policy.allDesired before.store) :
    (∃ id values, (after.store.matching desired).toList = [(id, values)] ∧
      desired.CarriedBy values) ∨
    (∃ conflict ∈ summary.conflicts, conflict.kind = desired.kind ∧
      conflict.criteria = desired.criteria ∧
      conflict.ids = (before.store.matching desired).keys ∧
      after.store.matching desired = before.store.matching desired ∧
      2 ≤ (before.store.matching desired).size) := by
  obtain ⟨list, sameRecords, adds, settled⟩ := pass.settled unfailed formed
  rw [← sameRecords] at wanted
  obtain ⟨⟨record, outcome⟩, present, rfl⟩ := List.mem_map.mp wanted
  have reached := settled.settled _ present
  rcases standing_or_conflict_of_settled reached with standing | ⟨named, left, several⟩
  · exact .inl standing
  · refine .inr ⟨record.conflictOf (before.store.matching record), ?_, rfl, rfl, rfl, left, several⟩
    rw [adds.conflicts]
    apply List.mem_append_right
    rw [List.mem_filterMap]
    exact ⟨outcome, List.mem_map_of_mem present, named⟩

/-- On a host that nothing hinders, a pass returns and has no failure of the store.
Whenever it returns and has none, exactly one active record is under the key of every
desired record, with its values, or a conflict is reported and the two or more
records are as they were. -/
theorem all_converges (policy : Policy) {session : Session}
    (reached : session.host.store.Reachable) (orderly : session.host.Orderly) :
    (¬ session.host.Hindered → ∃ summary after,
      session.run (all policy) = (.ok summary, after) ∧
        ∀ failure ∈ summary.failures, failure.kind ≠ .store) ∧
    ∀ summary after, session.run (all policy) = (.ok summary, after) →
      (∀ failure ∈ summary.failures, failure.kind ≠ .store) →
      ∀ entityType ∈ session.host.store.entityTypes, entityType.name ≠ EntityType.ruleName →
        ∃ rules, Rule.compile entityType.name (policy.classifier.classify entityType.name)
            policy.config.tenancy = .ok rules ∧
          ∀ desired ∈ DesiredRecord.globalRules entityType rules ++
              DesiredRecord.managerRecords entityType (policy.groupIn session.host.store),
            (∃ id values, (after.host.store.matching desired).toList = [(id, values)] ∧
              desired.CarriedBy values) ∨
            (∃ conflict ∈ summary.conflicts, conflict.kind = desired.kind ∧
              conflict.criteria = desired.criteria ∧
              conflict.ids = (session.host.store.matching desired).keys ∧
              after.host.store.matching desired = session.host.store.matching desired ∧
              2 ≤ (session.host.store.matching desired).size) := by
  constructor
  · intro unhindered
    obtain ⟨summary, after, ran, pass⟩ := all_returned orderly
      (fun _ lost => unhindered lost.hindered) policy
    exact ⟨summary, after, ran, pass.unfailed unhindered⟩
  · intro summary after ran unfailed entityType listed secured
    obtain ⟨rules, compiled⟩ := Rule.compile_succeeds entityType.name
      (policy.classifier.classify entityType.name) policy.config.tenancy
    have pass := all_ensures orderly policy
    rw [Session.ensures_of_returned ran] at pass
    refine ⟨rules, compiled, ?_⟩
    intro desired wanted
    rw [← Policy.desiredRecords_of_compile compiled] at wanted
    exact pass.standing_or_conflict unfailed reached.wellFormed
      (mem_allDesired listed secured wanted)

/-- A store with a manager group whose grant is there twice, with different
permissions. -/
def disputed : Store :=
  let grant (granted : Bool) : Values := .ofList <|
    [("name", FieldValue.text "res.partner - company manager"), ("model_id", .ref 1),
      ("group_id", .ref 2), ("perm_read", .bool granted)]
  let operations : List Store.Operation :=
    [.addEntityType "res.partner",
      .addGroup ⟨"multicompany_instead_of_multidatabase", "group_company_manager"⟩,
      .insertRecord .accessGrant (grant true), .insertRecord .accessGrant (grant false),
      .call (.savepoint "earlier")]
  operations.foldl Store.Operation.apply {}

theorem disputed_reachable : disputed.Reachable :=
  Store.Reachable.empty.foldl _

theorem all_converges_on_disputed :
    let policy : Policy := { classifier := .empty, config := {} }
    let session : Session := { host := { store := disputed } }
    ∃ summary after, session.run (all policy) = (.ok summary, after) ∧
      ∃ rules, Rule.compile "res.partner" .sharedPartner {} = .ok rules ∧
        ∀ desired ∈ DesiredRecord.globalRules ⟨1, "res.partner"⟩ rules ++
            DesiredRecord.managerRecords ⟨1, "res.partner"⟩ (policy.groupIn disputed),
          (∃ id values, (after.host.store.matching desired).toList = [(id, values)] ∧
            desired.CarriedBy values) ∨
          (∃ conflict ∈ summary.conflicts, conflict.kind = desired.kind ∧
            conflict.criteria = desired.criteria ∧
            conflict.ids = (disputed.matching desired).keys ∧
            after.host.store.matching desired = disputed.matching desired ∧
            2 ≤ (disputed.matching desired).size) := by
  intro policy session
  obtain ⟨returns, converges⟩ := @all_converges policy session disputed_reachable
    (Host.orderly_of_default disputed)
  obtain ⟨summary, after, ran, unfailed⟩ := returns (Host.unhindered_of_accepting rfl)
  exact ⟨summary, after, ran,
    converges summary after ran unfailed ⟨1, "res.partner"⟩ List.mem_cons_self (by decide)⟩

end Reconcile

end TenantGuard
