import Mathlib.Data.List.Sort
import TenantGuard.Proofs.Engine.Bindings
import TenantGuard.Proofs.Engine.Idempotence

/-!
# Registering identifiers twice

A second run right after a first removes no record, so it leaves every identifier alone
that is bound.  What it finds out about the others is decided by the collisions of the first
run: an identifier that was taken when a record asked for it is free by the end of that run
if what it stood for has been removed as a copy in the meantime.

The collisions of a run are therefore followed record by record, together with what became
of the identifiers in the end.
-/

namespace TenantGuard

namespace RecordOutcome

@[simp] theorem id?_repeated (outcome : RecordOutcome) : outcome.repeated.id? = outcome.id? := by
  cases outcome with
  | created | updated | unchanged | conflict => rfl

@[simp] theorem removed_repeated (outcome : RecordOutcome) : outcome.repeated.removed = [] := by
  cases outcome with
  | created | updated | unchanged | conflict => rfl

end RecordOutcome

namespace SettledRecord

/-- The record, when it is settled once more. -/
def repeated (entry : SettledRecord) : SettledRecord :=
  (entry.1, entry.2.repeated)

@[simp] theorem target?_repeated (entry : SettledRecord) :
    entry.repeated.report.target? = entry.report.target? := by
  rw [RecordReport.target?, RecordReport.target?]
  exact congrArg (Option.map _) entry.2.id?_repeated

theorem not_removes_repeated (entry : SettledRecord) (target : Target) :
    ¬ entry.repeated.report.Removes target := by
  rintro ⟨_, removed⟩
  rw [report, repeated, RecordOutcome.removed_repeated] at removed
  cases removed

/-- Lists of the same records with the same outcomes are the same. -/
theorem eq_map_repeated {list again : List SettledRecord}
    (sameRecords : again.map (·.1) = list.map (·.1))
    (sameOutcomes : again.map (·.2) = list.map (·.2.repeated)) : again = list.map repeated := by
  induction list generalizing again with
  | nil => exact List.map_eq_nil_iff.mp sameRecords
  | cons entry list ih =>
      cases again with
      | nil => cases sameRecords
      | cons entryAgain again =>
          rw [List.map_cons, List.map_cons, List.cons.injEq] at sameRecords sameOutcomes
          rw [List.map_cons, ih sameRecords.2 sameOutcomes.2]
          exact congrArg (· :: _) (Prod.ext sameRecords.1 sameOutcomes.1)

/-- The collision of a settled record with what its identifier stands for. -/
def collision? (settings : ExternalIdSettings) (registry : Reference → Option Target)
    (entry : SettledRecord) : Option IdentifierCollision :=
  entry.report.target?.bind fun wanted =>
    (registry (entry.1.reference settings)).bind fun existing =>
      if existing = wanted then none
      else some ⟨entry.1.reference settings, existing, wanted⟩

end SettledRecord

/-- Some record of the list was settled by removing the target as a copy. -/
def Removed (list : List SettledRecord) (target : Target) : Prop :=
  ∃ entry ∈ list, entry.report.Removes target

/-- The collisions that a list of settled records met.  In the end, an identifier that was
not taken stands for its record, and one that was taken stands for what it stood for, unless
that is gone. -/
inductive Meets (settings : ExternalIdSettings) (gone : Target → Prop)
    (registry : Reference → Option Target) :
    List SettledRecord → List IdentifierCollision → Prop where
  | nil : Meets settings gone registry [] []
  | nobody {entry : SettledRecord} {list : List SettledRecord}
      {collisions : List IdentifierCollision} (nobody : entry.report.target? = none)
      (rest : Meets settings gone registry list collisions) :
      Meets settings gone registry (entry :: list) collisions
  | own {entry : SettledRecord} {list : List SettledRecord}
      {collisions : List IdentifierCollision} {target : Target}
      (stands : entry.report.target? = some target)
      (own : registry (entry.1.reference settings) = some target)
      (rest : Meets settings gone registry list collisions) :
      Meets settings gone registry (entry :: list) collisions
  | taken {entry : SettledRecord} {list : List SettledRecord}
      {collisions : List IdentifierCollision} {wanted existing : Target}
      (stands : entry.report.target? = some wanted) (other : existing ≠ wanted)
      (stays : ¬ gone existing → registry (entry.1.reference settings) = some existing)
      (rest : Meets settings gone registry list collisions) :
      Meets settings gone registry (entry :: list)
        (⟨entry.1.reference settings, existing, wanted⟩ :: collisions)

namespace Meets

variable {settings : ExternalIdSettings} {gone goneLater : Target → Prop}
  {registry registryLater : Reference → Option Target} {list others : List SettledRecord}
  {collisions further : List IdentifierCollision}

/-- What was met stays true while identifiers are only dropped with what they stand for. -/
theorem later (meets : Meets settings gone registry list collisions)
    (kept : ∀ reference target, registry reference = some target → ¬ goneLater target →
      registryLater reference = some target)
    (standing : ∀ entry ∈ list, ∀ target, entry.report.target? = some target →
      ¬ goneLater target) :
    Meets settings (fun target => gone target ∨ goneLater target) registryLater list
      collisions := by
  induction meets with
  | nil => exact .nil
  | nobody nobody _ ih =>
      rw [List.forall_mem_cons] at standing
      exact .nobody nobody (ih standing.2)
  | own stands own _ ih =>
      rw [List.forall_mem_cons] at standing
      exact .own stands (kept _ _ own (standing.1 _ stands)) (ih standing.2)
  | taken stands other stays _ ih =>
      rw [List.forall_mem_cons] at standing
      refine .taken stands other (fun left => ?_) (ih standing.2)
      rw [not_or] at left
      exact kept _ _ (stays left.1) left.2

/-- The more is gone, the less is said. -/
theorem weaken (meets : Meets settings gone registry list collisions)
    (more : ∀ target, gone target → goneLater target) :
    Meets settings goneLater registry list collisions := by
  induction meets with
  | nil => exact .nil
  | nobody nobody _ ih => exact .nobody nobody ih
  | own stands own _ ih => exact .own stands own ih
  | taken stands other stays _ ih =>
      exact .taken stands other (fun left => stays fun isGone => left (more _ isGone)) ih

theorem append (meets : Meets settings gone registry list collisions)
    (meetsMore : Meets settings gone registry others further) :
    Meets settings gone registry (list ++ others) (collisions ++ further) := by
  induction meets with
  | nil => exact meetsMore
  | nobody nobody _ ih => exact .nobody nobody ih
  | own stands own _ ih => exact .own stands own ih
  | taken stands other stays _ ih => exact .taken stands other stays ih

/-- A collision is that of a record whose identifier stood for another one. -/
theorem of_mem (meets : Meets settings gone registry list collisions)
    {collision : IdentifierCollision} (listed : collision ∈ collisions) :
    ∃ entry ∈ list, entry.1.reference settings = collision.reference ∧
      entry.report.target? = some collision.wanted ∧
      (¬ gone collision.existing → registry collision.reference = some collision.existing) := by
  induction meets with
  | nil => cases listed
  | nobody _ _ ih | own _ _ _ ih =>
      obtain ⟨entry, inList, met⟩ := ih listed
      exact ⟨entry, List.mem_cons_of_mem _ inList, met⟩
  | taken stands other stays _ ih =>
      rcases List.mem_cons.mp listed with rfl | listed
      · exact ⟨_, List.mem_cons_self, rfl, stands, stays⟩
      · obtain ⟨entry, inList, met⟩ := ih listed
        exact ⟨entry, List.mem_cons_of_mem _ inList, met⟩

/-- If all identifiers that were taken still stand for what they stood for, the collisions
can be read off the registry. -/
theorem eq_filterMap (meets : Meets settings gone registry list collisions)
    (stay : ∀ collision ∈ collisions,
      registry collision.reference = some collision.existing) :
    collisions = list.filterMap (SettledRecord.collision? settings registry) := by
  induction meets with
  | nil => rfl
  | nobody nobody _ ih =>
      rw [List.filterMap_cons_none (by simp [SettledRecord.collision?, nobody])]
      exact ih stay
  | own stands own _ ih =>
      rw [List.filterMap_cons_none (by simp [SettledRecord.collision?, stands, own])]
      exact ih stay
  | @taken entry _ _ wanted existing stands other _ _ ih =>
      rw [List.forall_mem_cons] at stay
      have here : registry (entry.1.reference settings) = some existing := stay.1
      have met : entry.collision? settings registry =
          some ⟨entry.1.reference settings, existing, wanted⟩ := by
        simp [SettledRecord.collision?, stands, here, other]
      rw [List.filterMap_cons_some met, ← ih stay.2]

end Meets

/-- A record meets a collision, or its identifier is bound to it. -/
theorem DesiredRecord.Identifies.meets {settings : ExternalIdSettings} {desired : DesiredRecord}
    {outcome : RecordOutcome} {before after : Store} {collision : Option IdentifierCollision}
    (identifies : desired.Identifies settings outcome.id? before collision after)
    (enabled : settings.enabled = true) (gone : Target → Prop) :
    Meets settings gone after.externalId? [(desired, outcome)] collision.toList := by
  have stands : (SettledRecord.report (desired, outcome)).target? =
      outcome.id?.map fun id => ⟨desired.kind.entity, id⟩ := rfl
  generalize outcome.id? = id at identifies stands
  cases identifies with
  | nobody => exact .nobody stands .nil
  | disabled off =>
      rw [enabled] at off
      cases off
  | registered _ free =>
      refine .own stands ?_ .nil
      rw [Store.externalId?_insertExternalId, if_pos rfl]
  | existing _ own => exact .own stands own .nil
  | taken _ bound other => exact .taken stands other (fun _ => bound) .nil

/-- What is known of a list of settled records and their identifiers. -/
structure Enrolled (settings : ExternalIdSettings) (list : List SettledRecord)
    (collisions : List IdentifierCollision) (before after : Store) : Prop where
  accounted : Accounted list before after
  bound : Bound settings list collisions before after
  meets : Meets settings (Removed list) after.externalId? list collisions

namespace Enrolled

variable {settings : ExternalIdSettings} {first second : List SettledRecord}
  {collisions others : List IdentifierCollision} {before between after : Store}

theorem append (enrolled : Enrolled settings first collisions before between)
    (enrolledRest : Enrolled settings second others between after)
    (apart : ∀ entry ∈ first, ∀ later ∈ second, entry.1.Apart later.1) :
    Enrolled settings (first ++ second) (collisions ++ others) before after where
  accounted := enrolled.accounted.append enrolledRest.accounted apart
  bound := enrolled.bound.append enrolledRest.bound enrolled.accounted enrolledRest.accounted apart
  meets := by
    have earlier : Meets settings (fun target => Removed first target ∨ Removed second target)
        after.externalId? first collisions := by
      apply enrolled.meets.later
      · intro reference target there notRemoved
        exact enrolledRest.bound.kept reference target there
          fun later listed removes => notRemoved ⟨later, listed, removes⟩
      · rintro entry listed target stands ⟨later, listedLater, removes⟩
        exact enrolled.accounted.not_removed enrolledRest.accounted listed listedLater
          (apart entry listed later listedLater) stands removes
    apply (earlier.weaken _).append (enrolledRest.meets.weaken _)
    · rintro target (⟨entry, listed, removes⟩ | ⟨entry, listed, removes⟩)
      · exact ⟨entry, List.mem_append_left _ listed, removes⟩
      · exact ⟨entry, List.mem_append_right _ listed, removes⟩
    · rintro target ⟨entry, listed, removes⟩
      exact ⟨entry, List.mem_append_right _ listed, removes⟩

/-- Where records and identifiers are the same there is nothing to tell. -/
theorem nil (same : before.SameEntries after) : Enrolled settings [] [] before after where
  accounted := .of_sameRecords same.toSameRecords
  bound := .nil same.externalIds
  meets := .nil

end Enrolled

theorem Reconcile.cumulative_enrolled {policy : Policy}
    (enabled : policy.config.externalIds.enabled = true) :
    Cumulative policy (Enrolled policy.config.externalIds) where
  idle := fun store savepoints => .nil (.withSavepoints store savepoints)
  handled := by
    intro desired before after result handles coherent formed
    obtain ⟨_, _, identifies⟩ := handles.steps
    exact ⟨handles.accounted coherent formed, handles.bound enabled, identifies.meets enabled _⟩
  append := Enrolled.append

/-! ## The second run -/

namespace Enrolled

variable {settings : ExternalIdSettings} {list : List SettledRecord}
  {collisions collisionsAgain : List IdentifierCollision} {before between after : Store}
  {reference : Reference} {target : Target}

theorem not_removed_repeated (target : Target) :
    ¬ Removed (list.map SettledRecord.repeated) target := by
  rintro ⟨entry, listed, removes⟩
  obtain ⟨earlier, _, rfl⟩ := List.mem_map.mp listed
  exact earlier.not_removes_repeated target removes

/-- No identifier is dropped or bound anew. -/
theorem kept_again
    (again : Enrolled settings (list.map SettledRecord.repeated) collisionsAgain between after)
    (there : between.externalId? reference = some target) :
    after.externalId? reference = some target :=
  again.bound.kept reference target there fun entry listed removes =>
    not_removed_repeated target ⟨entry, listed, removes⟩

/-- What an identifier that is taken stood for is still what it stands for. -/
theorem taken_again
    (again : Enrolled settings (list.map SettledRecord.repeated) collisionsAgain between after)
    {collision : IdentifierCollision} (listed : collision ∈ collisionsAgain) :
    after.externalId? collision.reference = some collision.existing := by
  obtain ⟨_, _, _, _, stays⟩ := again.meets.of_mem listed
  exact stays (not_removed_repeated collision.existing)

/-- What is bound in the second run had collided in the first. -/
theorem origin_again (enrolled : Enrolled settings list collisions before between)
    (again : Enrolled settings (list.map SettledRecord.repeated) collisionsAgain between after)
    (there : after.externalId? reference = some target) :
    between.externalId? reference = some target ∨
      between.externalId? reference = none ∧
        ∃ collision ∈ collisions, collision.reference = reference ∧ collision.wanted = target := by
  cases bound : between.externalId? reference with
  | some earlier =>
      rw [again.kept_again bound] at there
      exact .inl there
  | none =>
      refine .inr ⟨rfl, ?_⟩
      rcases again.bound.origin reference target there with ⟨old, _⟩ | ⟨entry, listed, rfl, stands⟩
      · rw [bound] at old
        cases old
      · obtain ⟨earlier, inList, rfl⟩ := List.mem_map.mp listed
        rw [SettledRecord.target?_repeated] at stands
        rcases enrolled.bound.bound earlier inList target stands with here | collided
        · exact absurd (bound.symm.trans here) (by simp)
        · exact collided

/-- The second run leaves the registry alone exactly if every identifier that was taken in
the first is still bound after it. -/
theorem externalIds_again_iff (enrolled : Enrolled settings list collisions before between)
    (again : Enrolled settings (list.map SettledRecord.repeated) collisionsAgain between after) :
    after.data.externalIds = between.data.externalIds ↔
      ∀ collision ∈ collisions, between.externalId? collision.reference ≠ none := by
  constructor
  · intro same collision listed free
    obtain ⟨entry, inList, named, stands, _⟩ := enrolled.meets.of_mem listed
    have unbound : after.externalId? collision.reference = none := by
      rw [Store.externalId?, same]
      exact free
    have standsAgain := entry.target?_repeated.trans stands
    rcases again.bound.bound _ (List.mem_map_of_mem inList) _ standsAgain with
      here | ⟨collided, listedAgain, namedAgain, _⟩
    · exact absurd ((unbound.symm.trans (named ▸ here))) (by simp)
    · have taken := again.taken_again listedAgain
      rw [namedAgain] at taken
      exact absurd (unbound.symm.trans (named ▸ taken)) (by simp)
  · intro bound
    apply Std.ExtTreeMap.ext_getElem?
    intro reference
    change after.externalId? reference = between.externalId? reference
    cases there : after.externalId? reference with
    | some target =>
        rcases enrolled.origin_again again there with old | ⟨free, collision, listed, rfl, _⟩
        · exact old.symm
        · exact absurd free (bound collision listed)
    | none =>
        cases earlier : between.externalId? reference with
        | none => rfl
        | some target => exact absurd (there.symm.trans (again.kept_again earlier)) (by simp)

/-- The second run meets the same collisions exactly if every identifier that was taken in
the first still stands for what it stood for. -/
theorem collisions_again_iff (enrolled : Enrolled settings list collisions before between)
    (again : Enrolled settings (list.map SettledRecord.repeated) collisionsAgain between after)
    (apart : (list.map (·.1)).Pairwise DesiredRecord.Apart) (formed : before.WellFormed) :
    collisionsAgain = collisions ↔
      ∀ collision ∈ collisions,
        between.externalId? collision.reference = some collision.existing := by
  constructor
  · rintro rfl collision listed
    rcases enrolled.origin_again again (again.taken_again listed) with
      old | ⟨free, other, listedOther, _, wanted⟩
    · exact old
    · -- The identifier went with what it stood for, but that stands for a desired record.
      obtain ⟨entry, _, _, _, stays⟩ := enrolled.meets.of_mem listed
      obtain ⟨standing, inList, _, stands, _⟩ := enrolled.meets.of_mem listedOther
      rw [wanted] at stands
      apply stays
      rintro ⟨remover, listedRemover, removes⟩
      exact enrolled.accounted.not_removes apart formed listedRemover inList stands removes
  · intro stay
    have same : after.data.externalIds = between.data.externalIds :=
      (enrolled.externalIds_again_iff again).mpr fun collision listed => by
        rw [stay collision listed]
        simp
    have sameRegistry : after.externalId? = between.externalId? := by
      funext reference
      exact congrArg (·[reference]?) same
    rw [enrolled.meets.eq_filterMap stay, again.meets.eq_filterMap fun _ => again.taken_again,
      List.filterMap_map, sameRegistry]
    congr 1
    funext entry
    rw [Function.comp_apply, SettledRecord.collision?, SettledRecord.target?_repeated]
    rfl

end Enrolled

namespace Secure

variable {policy : Policy} {before between : Host} {summary again : Summary} {after : Store}

/-- On a host that nothing hinders, the records of a pass and their identifiers are known. -/
theorem Passes.enrolled (passes : Passes policy before summary after)
    (enabled : policy.config.externalIds.enabled = true) (unhindered : ¬ before.Hindered)
    (formed : before.store.WellFormed) :
    ∃ list : List SettledRecord, list.map (·.1) = policy.allDesired before.store ∧
      summary.outcomes.flatMap (·.records) = list.map SettledRecord.report ∧
      Enrolled policy.config.externalIds list summary.collisions before.store after := by
  obtain ⟨list, _, complete, reported, enrolled⟩ := passes.of_cumulative
    (Reconcile.cumulative_enrolled enabled) Enrolled.nil (.inr unhindered) formed
  exact ⟨list, complete unhindered, reported, enrolled⟩

/-- The second of two passes settles the records of the first once more. -/
theorem Passes.enrolled_again (passes : Passes policy before summary between.store)
    (passesAgain : Passes policy between again after) (continues : before.Continues between)
    (enabled : policy.config.externalIds.enabled = true) (unhindered : ¬ before.Hindered)
    (formed : before.store.WellFormed) :
    ∃ list : List SettledRecord, (list.map (·.1)).Pairwise DesiredRecord.Apart ∧
      Enrolled policy.config.externalIds list summary.collisions before.store between.store ∧
      Enrolled policy.config.externalIds (list.map SettledRecord.repeated) again.collisions
        between.store after := by
  have unhinderedAgain : ¬ between.Hindered := fun hindered =>
    unhindered (continues.hindered hindered)
  obtain ⟨list, desired, _, enrolled⟩ := passes.enrolled enabled unhindered formed
  obtain ⟨listAgain, desiredAgain, reportedAgain, enrolledAgain⟩ :=
    passesAgain.enrolled enabled unhinderedAgain (continues.wellFormed formed)
  rw [Policy.allDesired_congr continues.setting, ← desired] at desiredAgain
  have settled := enrolled.accounted.allSettled fun entry listed =>
    Policy.coherent_of_mem_allDesired (desired ▸ List.mem_map_of_mem listed)
  obtain ⟨_, repeated⟩ := passesAgain.sameRecords unhinderedAgain
    (desired.trans (Policy.allDesired_congr continues.setting).symm) settled.settled
  rw [Reconcile.outcomes_of_reports reportedAgain] at repeated
  rw [SettledRecord.eq_map_repeated desiredAgain repeated] at enrolledAgain
  refine ⟨list, ?_, enrolled, enrolledAgain⟩
  rw [desired]
  exact policy.flatMap_desiredRecords_apart _ formed.securedTypes_distinct

end Secure

/-- With external identifiers switched on, on a host that nothing hinders, a second run right
after a first drops no identifier and binds none anew.  It binds those that are free after
the first run though they were taken when a record asked for them.  So it leaves the
registry alone exactly if every identifier in the collisions of the first run is still bound,
and it reports the same collisions exactly if each still stands for what it stood for. -/
theorem secure_registers_again (policy : Policy)
    (enabled : policy.config.externalIds.enabled = true) {session : Session}
    (reached : session.host.store.Reachable) (orderly : session.host.Orderly)
    (unhindered : ¬ session.host.Hindered) :
    let first := session.act (secure policy)
    let second := first.2.act (secure policy)
    let registry := first.2.host.store.externalId?
    let registryAgain := second.2.host.store.externalId?
    ∃ summary again, first.1.reconcile = some summary ∧ second.1.reconcile = some again ∧
      (∀ reference target, registry reference = some target →
        registryAgain reference = some target) ∧
      (∀ reference target, registryAgain reference = some target →
        registry reference = some target ∨
          registry reference = none ∧ ∃ collision ∈ summary.collisions,
            collision.reference = reference ∧ collision.wanted = target) ∧
      (second.2.host.store.data.externalIds = first.2.host.store.data.externalIds ↔
        ∀ collision ∈ summary.collisions, registry collision.reference ≠ none) ∧
      (again.collisions = summary.collisions ↔
        ∀ collision ∈ summary.collisions,
          registry collision.reference = some collision.existing) := by
  intro first second registry registryAgain
  have ran : session.act (secure policy) = first := rfl
  have ranAgain : first.2.act (secure policy) = second := rfl
  obtain ⟨continues, summary, again, reported, reportedAgain, passes, passesAgain⟩ :=
    Secure.passes_of_runs orderly unhindered ran ranAgain
  obtain ⟨list, apart, enrolled, enrolledAgain⟩ :=
    passes.enrolled_again passesAgain continues enabled unhindered reached.wellFormed
  exact ⟨summary, again, reported, reportedAgain, fun _ _ => enrolledAgain.kept_again,
    fun _ _ => enrolled.origin_again enrolledAgain, enrolled.externalIds_again_iff enrolledAgain,
    enrolled.collisions_again_iff enrolledAgain apart reached.wellFormed⟩

/-- A store in which the identifier of a rule stands for somebody. -/
def Store.claimed : Store :=
  let operations : List Operation :=
    [.addEntityType "sale.order",
      .addGroup ⟨"multicompany_instead_of_multidatabase", "group_company_manager"⟩,
      .insertExternalId ⟨"base", "sale_order_global_read_and_edit_rule"⟩ ⟨"res.users", 7⟩]
  operations.foldl Operation.apply {}

theorem secure_registers_again_claimed :
    let policy : Policy :=
      { classifier := .empty, config := { externalIds := { enabled := true, module := "base" } } }
    let first := Session.act { host := { store := Store.claimed } } (secure policy)
    let second := first.2.act (secure policy)
    second.2.host.store.data.externalIds = first.2.host.store.data.externalIds ∧
      ∃ summary again, first.1.reconcile = some summary ∧ second.1.reconcile = some again ∧
        summary.collisions ≠ [] ∧ again.collisions = summary.collisions := by
  intro policy first second
  let collision : IdentifierCollision :=
    ⟨⟨"base", "sale_order_global_read_and_edit_rule"⟩, ⟨"res.users", 7⟩, ⟨"ir.rule", 3⟩⟩
  have evaluated : first.1.reconcile.map (·.collisions) = some [collision] ∧
      first.2.host.store.externalId? collision.reference = some collision.existing := by
    decide +kernel
  have registers := @secure_registers_again policy rfl { host := { store := Store.claimed } }
    (Store.Reachable.empty.foldl _) (Host.orderly_of_default _) (Host.unhindered_of_accepting rfl)
  have ran : Session.act { host := { store := Store.claimed } } (secure policy) = first := rfl
  have ranAgain : first.2.act (secure policy) = second := rfl
  simp only [ran, ranAgain] at registers
  clear_value first second
  obtain ⟨collided, stays⟩ := evaluated
  obtain ⟨summary, again, reported, reportedAgain, _, _, sameRegistry, sameCollisions⟩ := registers
  rw [reported, Option.map_some, Option.some.injEq] at collided
  rw [collided, List.forall_mem_singleton] at sameRegistry sameCollisions
  refine ⟨sameRegistry.mpr ?_, summary, again, reported, reportedAgain, by simp [collided], ?_⟩
  · rw [stays]
    simp
  · rw [collided]
    exact sameCollisions.mpr stays

/-- A store in which the identifier of a rule stands for the second of two equal grants. -/
def Store.relisted : Store :=
  let grant : Values := .ofList <|
    [("name", FieldValue.text "sale.order - company manager"), ("model_id", .ref 1),
      ("group_id", .ref 2)]
  let operations : List Operation :=
    [.addEntityType "sale.order",
      .addGroup ⟨"multicompany_instead_of_multidatabase", "group_company_manager"⟩,
      .insertRecord .accessGrant grant, .insertRecord .accessGrant grant,
      .insertExternalId ⟨"base", "sale_order_global_read_and_edit_rule"⟩ ⟨"ir.model.access", 4⟩]
  operations.foldl Operation.apply {}

theorem Store.relisted_reachable : relisted.Reachable :=
  Reachable.empty.foldl _

/-- The rule is refused its identifier before the grant is removed, so the second run binds
it and reports no collision. -/
theorem secure_registers_again_relisted :
    let policy : Policy :=
      { classifier := .empty, config := { externalIds := { enabled := true, module := "base" } } }
    let first := Session.act { host := { store := Store.relisted } } (secure policy)
    let second := first.2.act (secure policy)
    let reference : Reference := ⟨"base", "sale_order_global_read_and_edit_rule"⟩
    Store.relisted.Reachable ∧ Store.relisted.rejectedWrites = [] ∧
      first.2.host.store.externalId? reference = none ∧
      second.2.host.store.externalId? reference = some ⟨"ir.rule", 5⟩ ∧
      first.1.reconcile.map (·.collisions) =
        some [⟨reference, ⟨"ir.model.access", 4⟩, ⟨"ir.rule", 5⟩⟩] ∧
      second.1.reconcile.map (·.collisions) = some [] := by
  -- Sorting by insertion gives the same lists and can be evaluated here.
  have sorts (ids : List Int) : ids.mergeSort (fun first second => first ≤ second) =
      ids.insertionSort (· ≤ ·) := List.mergeSort_eq_insertionSort (· ≤ ·) ids
  refine ⟨Store.relisted_reachable, rfl, ?_⟩
  delta secure Secure.reconcile Reconcile.all Reconcile.entity Reconcile.entity.run
    Reconcile.records Reconcile.one Reconcile.record
  simp only [sorts]
  decide +kernel

end TenantGuard
