import TenantGuard.Proofs.Engine.Convergence
import TenantGuard.Proofs.Engine.Securing

/-!
# Clean reports

Whatever goes wrong in a run leaves a trace in its report.  Where the report is clean,
no half of the run was given up, no entity type and no table failed and no conflict was
found, so every desired record stands in the store and no tenant reference is missing.
-/

namespace TenantGuard

namespace Secure

variable {policy : Policy} {before : Host} {reached after : Store} {summary : Summary}

/-- The summary names the manager group that the store holds. -/
theorem Passes.managerGroup (passes : Passes policy before summary after) :
    summary.managerGroup = policy.groupIn before.store := by
  obtain ⟨opened, left, _, goesOn, pass, _⟩ := passes.steps
  obtain ⟨start, outcomes, _, _, _, rfl⟩ := pass.steps
  rw [(Summary.foldl_absorb_rest _ _).2.2.2, Policy.groupIn, Policy.groupIn,
    goesOn.setting.groups]

/-- A pass without failures and conflicts leaves one record, with its values, under the
key of every desired record. -/
theorem Passes.standing (passes : Passes policy before summary after)
    (failures : summary.failures = []) (conflicts : summary.conflicts = [])
    (formed : before.store.WellFormed) {desired : DesiredRecord}
    (wanted : desired ∈ policy.allDesired before.store) :
    ∃ id values, (after.matching desired).toList = [(id, values)] ∧
      desired.CarriedBy values := by
  obtain ⟨opened, left, saved, goesOn, pass, same⟩ := passes.steps
  rw [← same.matching]
  rw [← Policy.allDesired_congr goesOn.setting] at wanted
  have openedFormed := goesOn.wellFormed formed
  rcases pass.standing_or_conflict (by simp [failures]) openedFormed wanted with
    standing | ⟨conflict, reported, _⟩
  · exact standing
  · simp [conflicts] at reported

/-- A backfill that reports no error leaves no null in a table with a plain name. -/
theorem Backfilling.complete {settings : BackfillSettings} {filled : Option BackfillReport}
    (backfills : Backfilling settings reached (filled, []) after) (enabled : settings.enabled)
    {table : String} (plain : Sql.isPlain table) : Backfill.Complete settings table after := by
  generalize result : (filled, ([] : List String)) = reported at backfills
  cases backfills with
  | disabled off => exact absurd enabled off
  | @filled report left run =>
      have unfailed : report.failed = [] := by
        rw [Prod.mk.injEq] at result
        exact List.map_eq_nil_iff.mp result.2.symm
      exact run.complete unfailed plain
  | aborted same => cases result

/-- A clean report comes from a run of which both halves were clean. -/
theorem Runs.of_clean {report : Report} (runs : Runs policy before report after)
    (clean : report.isClean) :
    ∃ summary reached filled, Passes policy before summary reached ∧
      summary.managerGroup.isSome ∧ summary.failures = [] ∧ summary.conflicts = [] ∧
      Backfilling policy.config.backfill reached (filled, []) after := by
  obtain ⟨result, missing, filled, failed, reached, reconciles, backfills, rfl⟩ := runs.steps
  simp only [Report.isClean, Bool.and_eq_true, List.isEmpty_iff, List.append_eq_nil_iff,
    Option.any_eq_true] at clean
  obtain ⟨⟨rfl, rfl⟩, summary, isResult, unproblematic⟩ := clean
  simp only [Summary.hasProblems, Bool.not_or, Bool.not_not, Bool.and_eq_true,
    List.isEmpty_iff] at unproblematic
  generalize first : (result, ([] : List String)) = reported at reconciles
  cases reconciles with
  | passed passes group =>
      rw [Prod.mk.injEq] at first
      rw [first.1, Option.some.injEq] at isResult
      rw [isResult] at passes group
      exact ⟨summary, reached.store, filled, passes, group, unproblematic.2, unproblematic.1,
        backfills⟩
  | groupless passes group => cases first
  | aborted hindered aborts => cases first

end Secure

/-- A clean report is true to the store.  Whichever calls are lost or refused, if the
report of a run is clean, then the manager group is known, exactly one active record is
under the key of every desired record of the catalog, with its values, and where the
backfill is switched on, no table with a plain name has a null in the tenant column. -/
theorem secure_clean (policy : Policy) {session : Session}
    (reachable : session.host.store.Reachable) (orderly : session.host.Orderly)
    (clean : (session.act (secure policy)).1.isClean = true) :
    let after := (session.act (secure policy)).2.host.store
    (∃ group, policy.groupIn session.host.store = some group ∧
      ∀ entityType ∈ session.host.store.entityTypes, entityType.name ≠ EntityType.ruleName →
        ∃ rules, Rule.compile entityType.name (policy.classifier.classify entityType.name)
            policy.config.tenancy = .ok rules ∧
          ∀ desired ∈ DesiredRecord.globalRules entityType rules ++
              [DesiredRecord.managerGrant entityType group,
                DesiredRecord.managerRule entityType group],
            ∃ id values, (after.matching desired).toList = [(id, values)] ∧
              desired.CarriedBy values) ∧
    (policy.config.backfill.enabled = true → ∀ table rows, Sql.isPlain table = true →
      after.column? table policy.config.backfill.column = some rows → none ∉ rows) := by
  intro after
  have runs : Secure.Runs policy session.host (session.act (secure policy)).1 after :=
    secure_yields orderly policy
  obtain ⟨summary, reached, filled, passes, known, failures, conflicts, backfills⟩ :=
    runs.of_clean clean
  rw [passes.managerGroup, Option.isSome_iff_exists] at known
  obtain ⟨group, isGroup⟩ := known
  refine ⟨⟨group, isGroup, ?_⟩, ?_⟩
  · intro entityType listed secured
    obtain ⟨rules, compiled⟩ := Rule.compile_succeeds entityType.name
      (policy.classifier.classify entityType.name) policy.config.tenancy
    refine ⟨rules, compiled, ?_⟩
    intro desired wanted
    have amongDesired : desired ∈ policy.desiredRecords entityType
        (policy.groupIn session.host.store) := by
      rw [Policy.desiredRecords_of_compile compiled, isGroup]
      exact wanted
    rw [backfills.sameRecords.matching]
    exact passes.standing failures conflicts reachable.wellFormed
      (Reconcile.mem_allDesired listed secured amongDesired)
  · intro enabled table rows plain stored
    exact backfills.complete enabled plain rows stored

/-- A store with one entity type, the manager group, and a table in which a tenant
reference is missing. -/
def Store.founded : Store :=
  let operations : List Operation :=
    [.addEntityType "sale.order",
      .addGroup ⟨"multicompany_instead_of_multidatabase", "group_company_manager"⟩,
      .addTable "sale_order" "company_id" [none, some 3]]
  operations.foldl Operation.apply {}

theorem Store.founded_reachable : founded.Reachable :=
  Reachable.empty.foldl _

theorem secure_clean_founded :
    let policy : Policy := { classifier := .empty, config := {} }
    let session : Session := { host := { store := Store.founded } }
    let after := (session.act (secure policy)).2.host.store
    (session.act (secure policy)).1.isClean = true ∧
      (∃ rules, Rule.compile "sale.order" .tenantScoped {} = .ok rules ∧
        ∀ desired ∈ DesiredRecord.globalRules ⟨1, "sale.order"⟩ rules ++
            [DesiredRecord.managerGrant ⟨1, "sale.order"⟩ 2,
              DesiredRecord.managerRule ⟨1, "sale.order"⟩ 2],
          ∃ id values, (after.matching desired).toList = [(id, values)] ∧
            desired.CarriedBy values) ∧
      ∀ rows, after.column? "sale_order" "company_id" = some rows → none ∉ rows := by
  intro policy session after
  have clean : (session.act (secure policy)).1.isClean = true := by decide +kernel
  obtain ⟨⟨group, known, standing⟩, complete⟩ := @secure_clean policy session
    Store.founded_reachable (Host.orderly_of_default Store.founded) clean
  have isGroup : policy.groupIn session.host.store = some 2 := by decide +kernel
  rw [isGroup] at known
  cases known
  have plain : Sql.isPlain "sale_order" = true := by decide +kernel
  exact ⟨clean, standing ⟨1, "sale.order"⟩ List.mem_cons_self (by decide),
    fun rows => complete rfl "sale_order" rows plain⟩

end TenantGuard
