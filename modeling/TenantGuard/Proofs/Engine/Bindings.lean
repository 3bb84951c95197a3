import TenantGuard.Proofs.Engine.Difference

/-!
# What external identifiers stand for

An identifier is bound when a record stands for a desired one and the identifier is free.
From then on it stands for that record, since identifiers are never bound anew and the
records that stand for desired ones are not removed.  The removal of a copy takes the
identifiers of the copy with it; all others are left alone.

Whether an identifier is free depends on what was bound and removed before, so the pass is
followed record by record.  What is known of a part of it stays true, because no record is
under two keys: what stands for one desired record is no copy under the key of another.
-/

namespace TenantGuard

namespace RecordReport

/-- The record that stands for the desired one, as identifiers name it. -/
def target? (report : RecordReport) : Option Target :=
  report.outcome.id?.map fun id => ⟨report.kind.entity, id⟩

/-- The record was removed as a copy. -/
def Removes (report : RecordReport) (target : Target) : Prop :=
  target.entity = report.kind.entity ∧ target.id ∈ report.outcome.removed

end RecordReport

namespace Store

variable {store after : Store} {kind : RecordKind} {reference other : Reference}
  {target : Target}

/-- Removing records takes their identifiers with it. -/
theorem externalId?_unlink {ids : List RecordId} :
    (store.unlink kind ids).externalId? reference = some target ↔
      store.externalId? reference = some target ∧
        ¬ (target.entity = kind.entity ∧ target.id ∈ ids) := by
  rw [externalId?, unlink, externalId?, Std.ExtTreeMap.getElem?_filter',
    Option.filter_eq_some_iff]
  simp only [StoreData.externalIds_withRecords, List.contains_iff_mem, decide_eq_true_eq]

theorem externalId?_insertExternalId :
    (store.insertExternalId other target).externalId? reference =
      if other = reference then some target else store.externalId? reference := by
  rw [externalId?, insertExternalId, externalId?, Std.ExtTreeMap.getElem?_insert]
  simp

theorem externalId?_of_create {id : RecordId} {values : Values}
    (created : store.create kind values = (.ok id, after)) :
    after.externalId? reference = store.externalId? reference := by
  obtain ⟨_, rfl⟩ := create_eq_ok created
  exact congrArg (·[reference]?) (StoreData.externalIds_withRecords _ _ _)

theorem externalId?_of_write {id : RecordId} {values : Values}
    (written : store.write kind id values = (.ok (), after)) :
    after.externalId? reference = store.externalId? reference := by
  obtain ⟨_, _, rfl⟩ := write_eq_ok written
  exact congrArg (·[reference]?) (StoreData.externalIds_withRecords _ _ _)

end Store

namespace DesiredRecord

variable {desired : DesiredRecord} {before after : Store} {outcome : RecordOutcome}
  {reference : Reference} {target : Target}

theorem Merges.externalId? {kept : RecordId} {copies : List RecordId}
    (merges : desired.Merges before kept copies after) :
    after.externalId? reference = some target ↔ before.externalId? reference = some target ∧
      ¬ (target.entity = desired.kind.entity ∧ target.id ∈ copies) := by
  rw [merges.left]
  split
  next alone => simp [alone]
  next => exact Store.externalId?_unlink

/-- Settling touches no identifiers but those of the copies it removes. -/
theorem Settles.externalId? (settles : desired.Settles before outcome after) :
    after.externalId? reference = some target ↔ before.externalId? reference = some target ∧
      ¬ (target.entity = desired.kind.entity ∧ target.id ∈ outcome.removed) := by
  cases settles with
  | created missing creates =>
      rw [Store.externalId?_of_create creates]
      simp [RecordOutcome.removed]
  | conflicting => simp [RecordOutcome.removed]
  | unchanged merges => exact merges.externalId?
  | updated merges differ writes =>
      rw [Store.externalId?_of_write writes]
      exact merges.externalId?

end DesiredRecord

/-- What the identifiers stand for after a list of records has been settled and
registered. -/
structure Bound (settings : ExternalIdSettings) (list : List SettledRecord)
    (collisions : List IdentifierCollision) (before after : Store) : Prop where
  bound : ∀ entry ∈ list, ∀ target, (SettledRecord.report entry).target? = some target →
    after.externalId? (entry.1.reference settings) = some target ∨
      ∃ collision ∈ collisions, collision.reference = entry.1.reference settings ∧
        collision.wanted = target
  kept : ∀ reference target, before.externalId? reference = some target →
    (∀ entry ∈ list, ¬ (SettledRecord.report entry).Removes target) →
      after.externalId? reference = some target
  origin : ∀ reference target, after.externalId? reference = some target →
    (before.externalId? reference = some target ∧
      ∀ entry ∈ list, ¬ (SettledRecord.report entry).Removes target) ∨
    ∃ entry ∈ list, entry.1.reference settings = reference ∧
      (SettledRecord.report entry).target? = some target

/-- What stands for a desired record of the first list is no copy under a key of the
second. -/
theorem Accounted.not_removed {first second : List SettledRecord}
    {before between after : Store} (accounted : Accounted first before between)
    (accountedRest : Accounted second between after) {entry later : SettledRecord}
    (listed : entry ∈ first) (listedLater : later ∈ second) (apart : entry.1.Apart later.1)
    {target : Target} (stands : entry.report.target? = some target) :
    ¬ later.report.Removes target := by
  rintro ⟨sameEntity, removed⟩
  obtain ⟨id, named, rfl⟩ := Option.map_eq_some_iff.mp stands
  have sameKind : entry.1.kind = later.1.kind := RecordKind.entity_injective sameEntity
  have left := (accounted.leaves entry listed).left_of_id? named
  have found := ((accountedRest.leaves later listedLater).removed_iff.mp removed).1
  obtain ⟨values, present⟩ := Option.ne_none_iff_exists'.mp left
  obtain ⟨stored, matched⟩ := RecordTable.getElem?_matching_eq_some.mp present
  rw [sameKind] at stored
  exact apart sameKind values ⟨matched, Store.matched_of_found stored found⟩

/-- What stands for a desired record is in the store, and what was removed is not. -/
theorem Accounted.not_removes {list : List SettledRecord} {before after : Store}
    (accounted : Accounted list before after)
    (apart : (list.map (·.1)).Pairwise DesiredRecord.Apart) (formed : before.WellFormed)
    {entry other : SettledRecord} (listed : entry ∈ list) (listedToo : other ∈ list)
    {target : Target} (stands : other.report.target? = some target) :
    ¬ entry.report.Removes target := by
  rintro ⟨sameEntity, removed⟩
  obtain ⟨id, named, rfl⟩ := Option.map_eq_some_iff.mp stands
  have sameKind : other.1.kind = entry.1.kind := RecordKind.entity_injective sameEntity
  obtain ⟨found, gone⟩ := (accounted.leaves entry listed).removed_iff.mp removed
  have left := (accounted.leaves other listedToo).left_of_id? named
  rw [(accounted.record?_of_found apart formed listed (.inl found)).2, ← sameKind,
    ← (accounted.record?_of_found apart formed listedToo (.inr left)).2] at gone
  exact left gone

namespace Bound

variable {settings : ExternalIdSettings} {first second : List SettledRecord}
  {collisions others : List IdentifierCollision} {before between after : Store}

theorem nil (same : after.data.externalIds = before.data.externalIds) :
    Bound settings [] collisions before after where
  bound := by simp
  kept := by
    intro reference target old _
    rw [Store.externalId?, same]
    exact old
  origin := by
    intro reference target there
    rw [Store.externalId?, same] at there
    exact .inl ⟨there, by simp⟩

theorem append (boundFirst : Bound settings first collisions before between)
    (boundSecond : Bound settings second others between after)
    (accounted : Accounted first before between) (accountedRest : Accounted second between after)
    (apart : ∀ entry ∈ first, ∀ later ∈ second, entry.1.Apart later.1) :
    Bound settings (first ++ second) (collisions ++ others) before after where
  bound := by
    intro entry membership target stands
    rcases List.mem_append.mp membership with listed | listed
    · rcases boundFirst.bound entry listed target stands with here | ⟨collision, reported, taken⟩
      · left
        apply boundSecond.kept _ _ here
        intro later listedLater
        exact accounted.not_removed accountedRest listed listedLater
          (apart entry listed later listedLater) stands
      · exact .inr ⟨collision, List.mem_append_left _ reported, taken⟩
    · rcases boundSecond.bound entry listed target stands with here | ⟨collision, reported, taken⟩
      · exact .inl here
      · exact .inr ⟨collision, List.mem_append_right _ reported, taken⟩
  kept := by
    intro reference target old notRemoved
    rw [List.forall_mem_append] at notRemoved
    exact boundSecond.kept _ _ (boundFirst.kept _ _ old notRemoved.1) notRemoved.2
  origin := by
    intro reference target there
    rcases boundSecond.origin reference target there with
      ⟨earlier, notRemoved⟩ | ⟨entry, listed, named, stands⟩
    · rcases boundFirst.origin reference target earlier with
        ⟨old, notRemovedBefore⟩ | ⟨entry, listed, named, stands⟩
      · left
        rw [List.forall_mem_append]
        exact ⟨old, notRemovedBefore, notRemoved⟩
      · exact .inr ⟨entry, List.mem_append_left _ listed, named, stands⟩
    · exact .inr ⟨entry, List.mem_append_right _ listed, named, stands⟩

/-- No identifier stands for a record that was removed. -/
theorem ne_of_removes {list : List SettledRecord}
    (bound : Bound settings list collisions before after)
    (accounted : Accounted list before after)
    (apart : (list.map (·.1)).Pairwise DesiredRecord.Apart) (formed : before.WellFormed)
    {entry : SettledRecord} (listed : entry ∈ list) {reference : Reference} {target : Target}
    (removes : entry.report.Removes target) : after.externalId? reference ≠ some target := by
  intro there
  rcases bound.origin reference target there with
    ⟨_, notRemoved⟩ | ⟨other, listedToo, _, stands⟩
  · exact notRemoved entry listed removes
  · exact accounted.not_removes apart formed listed listedToo stands removes

end Bound

namespace DesiredRecord

variable {policy : Policy} {desired : DesiredRecord} {before after : Store}
  {result : RecordReport × Option IdentifierCollision}

/-- Registration binds nothing anew: an identifier that is taken keeps what it stands for,
and one that is free is bound to the record. -/
structure Binds (settings : ExternalIdSettings) (desired : DesiredRecord)
    (wanted : Option Target) (before : Store) (collision : Option IdentifierCollision)
    (after : Store) : Prop where
  kept : ∀ reference target, before.externalId? reference = some target →
    after.externalId? reference = some target
  origin : ∀ reference target, after.externalId? reference = some target →
    before.externalId? reference = some target ∨
      (desired.reference settings = reference ∧ wanted = some target)
  bound : ∀ target, wanted = some target →
    after.externalId? (desired.reference settings) = some target ∨
      ∃ reported ∈ collision.toList, reported.reference = desired.reference settings ∧
        reported.wanted = target

theorem Identifies.binds {settings : ExternalIdSettings} {id : Option RecordId}
    {collision : Option IdentifierCollision} (enabled : settings.enabled = true)
    (identifies : desired.Identifies settings id before collision after) :
    Binds settings desired (id.map fun id => ⟨desired.kind.entity, id⟩) before collision after := by
  cases identifies with
  | nobody => exact ⟨fun _ _ old => old, fun _ _ there => .inl there, by simp⟩
  | disabled off =>
      rw [enabled] at off
      cases off
  | registered _ free =>
      refine ⟨?_, ?_, ?_⟩
      · intro reference target old
        rw [Store.externalId?_insertExternalId, if_neg]
        · exact old
        · rintro rfl
          rw [free] at old
          cases old
      · intro reference target there
        rw [Store.externalId?_insertExternalId] at there
        split at there
        next same => exact .inr ⟨same, there⟩
        next => exact .inl there
      · intro target wanted
        left
        rw [Store.externalId?_insertExternalId, if_pos rfl]
        exact wanted
  | existing _ own =>
      refine ⟨fun _ _ old => old, fun _ _ there => .inl there, ?_⟩
      intro target wanted
      left
      rw [own]
      exact wanted
  | taken _ bound other =>
      refine ⟨fun _ _ old => old, fun _ _ there => .inl there, ?_⟩
      intro target wanted
      exact .inr ⟨_, List.mem_singleton_self _, rfl, Option.some.inj wanted⟩

/-- A handled record is bound to its identifier, or the identifier was taken. -/
theorem Handles.bound (enabled : policy.config.externalIds.enabled = true)
    (handles : desired.Handles policy before result after) :
    Bound policy.config.externalIds [(desired, result.1.outcome)] result.2.toList before after := by
  obtain ⟨between, settles, identifies⟩ := handles.steps
  have binds := identifies.binds enabled
  constructor
  · intro entry membership target stands
    rw [List.mem_singleton.mp membership] at stands ⊢
    exact binds.bound target stands
  · intro reference target old notRemoved
    apply binds.kept
    rw [settles.externalId?]
    exact ⟨old, notRemoved _ (List.mem_singleton_self _)⟩
  · intro reference target there
    rcases binds.origin reference target there with earlier | ⟨named, stands⟩
    · left
      rw [settles.externalId?] at earlier
      rw [List.forall_mem_singleton]
      exact earlier
    · exact .inr ⟨_, List.mem_singleton_self _, named, stands⟩

end DesiredRecord

namespace Reconcile

theorem cumulative_bound {policy : Policy} (enabled : policy.config.externalIds.enabled = true) :
    Cumulative policy fun list collisions before after =>
      Accounted list before after ∧
        Bound policy.config.externalIds list collisions before after where
  idle := fun store savepoints => ⟨(cumulative_accounted policy).idle store savepoints, .nil rfl⟩
  handled := fun handles coherent formed =>
    ⟨handles.accounted coherent formed, handles.bound enabled⟩
  append := fun first second apart => ⟨first.1.append second.1 apart,
    first.2.append second.2 first.1 second.1 apart⟩

/-- With external identifiers switched on, a pass on a host that nothing hinders returns
without a failure of the store.  Whenever it returns without one, the reports are those of
all desired records, and the identifier of each that a record stands for is bound to that
record, unless a collision is reported.  What was bound before still is, unless what it
stood for was removed as a copy, and then the identifier does not stand for that any more.
Nothing else is bound. -/
theorem all_binds (policy : Policy) (enabled : policy.config.externalIds.enabled = true)
    {session : Session} (reached : session.host.store.Reachable)
    (orderly : session.host.Orderly) :
    (¬ session.host.Hindered → ∃ summary after,
      session.run (all policy) = (.ok summary, after) ∧
        ∀ failure ∈ summary.failures, failure.kind ≠ .store) ∧
    ∀ summary after, session.run (all policy) = (.ok summary, after) →
      (∀ failure ∈ summary.failures, failure.kind ≠ .store) →
      let settings := policy.config.externalIds
      let before := session.host.store
      let desired := policy.allDesired before
      let reports := summary.outcomes.flatMap (·.records)
      (reports.map fun report => (report.kind, report.name)) =
          (desired.map fun record => (record.kind, record.name)) ∧
        (∀ pair ∈ desired.zip reports, ∀ target, pair.2.target? = some target →
          after.host.store.externalId? (pair.1.reference settings) = some target ∨
            ∃ collision ∈ summary.collisions,
              collision.reference = pair.1.reference settings ∧ collision.wanted = target) ∧
        (∀ reference target, before.externalId? reference = some target →
          ((∀ report ∈ reports, ¬ report.Removes target) →
            after.host.store.externalId? reference = some target) ∧
          ((∃ report ∈ reports, report.Removes target) →
            after.host.store.externalId? reference ≠ some target)) ∧
        ∀ reference target, after.host.store.externalId? reference = some target →
          before.externalId? reference = some target ∨
            ∃ pair ∈ desired.zip reports, pair.1.reference settings = reference ∧
              pair.2.target? = some target := by
  constructor
  · intro unhindered
    obtain ⟨summary, after, ran, pass⟩ := all_returned orderly
      (fun _ lost => unhindered lost.hindered) policy
    exact ⟨summary, after, ran, pass.unfailed unhindered⟩
  · intro summary after ran unfailed settings before desired reports
    have pass := all_ensures orderly policy
    rw [Session.ensures_of_returned ran] at pass
    have formed : before.WellFormed := reached.wellFormed
    obtain ⟨list, _, complete, reported, accounted, bound⟩ :=
      (cumulative_bound enabled).of_pass pass (.inr unfailed) formed
    have sameDesired : list.map (·.1) = desired := complete unfailed
    have sameReports : reports = list.map SettledRecord.report := reported
    have apart : (list.map (·.1)).Pairwise DesiredRecord.Apart := by
      rw [sameDesired]
      exact policy.flatMap_desiredRecords_apart _ formed.securedTypes_distinct
    have pairs : desired.zip reports = list.map fun entry => (entry.1, entry.report) := by
      rw [← sameDesired, sameReports]
      exact List.zip_map'
    rw [pairs, sameReports, ← sameDesired]
    refine ⟨?_, ?_, ?_, ?_⟩
    · rw [List.map_map, List.map_map]
      rfl
    · rw [List.forall_mem_map]
      exact bound.bound
    · intro reference target old
      rw [List.forall_mem_map]
      constructor
      · exact bound.kept reference target old
      · rintro ⟨report, listed, removes⟩
        obtain ⟨entry, inList, rfl⟩ := List.mem_map.mp listed
        exact bound.ne_of_removes accounted apart formed inList removes
    · intro reference target there
      rcases bound.origin reference target there with
        ⟨old, _⟩ | ⟨entry, listed, named, stands⟩
      · exact .inl old
      · exact .inr ⟨_, List.mem_map_of_mem listed, named, stands⟩

/-- A store in which the grant of the manager group is there twice, the copy under a name
of its own, and the identifier of the manager group's rule stands for somebody. -/
def enlisted : Store :=
  let grant : Values := .ofList <|
    [("name", FieldValue.text "res.partner - company manager"), ("model_id", .ref 1),
      ("group_id", .ref 2)]
  let operations : List Store.Operation :=
    [.addEntityType "res.partner",
      .addGroup ⟨"multicompany_instead_of_multidatabase", "group_company_manager"⟩,
      .insertRecord .accessGrant grant, .insertRecord .accessGrant grant,
      .insertExternalId ⟨"custom", "copy"⟩ ⟨"ir.model.access", 4⟩,
      .insertExternalId ⟨"__multicompany_instead_of_multidatabase__",
        "res_partner_company_manager_rule"⟩ ⟨"res.users", 7⟩]
  operations.foldl Store.Operation.apply {}

theorem enlisted_reachable : enlisted.Reachable :=
  Store.Reachable.empty.foldl _

theorem all_binds_on_enlisted :
    let policy : Policy :=
      { classifier := .empty, config := { externalIds := { enabled := true } } }
    let session : Session := { host := { store := enlisted } }
    ∃ summary after, session.run (all policy) = (.ok summary, after) ∧
      let reports := summary.outcomes.flatMap (·.records)
      (∀ pair ∈ (policy.allDesired enlisted).zip reports, ∀ target,
        pair.2.target? = some target →
          after.host.store.externalId? (pair.1.reference policy.config.externalIds) =
              some target ∨
            ∃ collision ∈ summary.collisions,
              collision.reference = pair.1.reference policy.config.externalIds ∧
                collision.wanted = target) ∧
      (((∃ report ∈ reports, report.Removes ⟨"ir.model.access", 4⟩) →
        after.host.store.externalId? ⟨"custom", "copy"⟩ ≠ some ⟨"ir.model.access", 4⟩)) ∧
      after.host.store.externalId? ⟨"__multicompany_instead_of_multidatabase__",
        "res_partner_company_manager_rule"⟩ = some ⟨"res.users", 7⟩ := by
  intro policy session
  obtain ⟨returns, binds⟩ := @all_binds policy rfl session enlisted_reachable
    (Host.orderly_of_default enlisted)
  obtain ⟨summary, after, ran, unfailed⟩ := returns (Host.unhindered_of_accepting rfl)
  obtain ⟨_, bound, kept, _⟩ := binds summary after ran unfailed
  refine ⟨summary, after, ran, bound, (kept _ _ (by decide +kernel)).2, ?_⟩
  apply (kept _ _ (by decide +kernel)).1
  rintro report _ ⟨sameEntity, _⟩
  cases kind : report.kind with
  | rule | accessGrant =>
      rw [kind] at sameEntity
      revert sameEntity
      decide

end Reconcile

end TenantGuard
