import Mathlib.Data.List.Sort
import TenantGuard.Proofs.Engine.Securing
import TenantGuard.Proofs.Engine.Bindings
import TenantGuard.Proofs.Record.Identifiers

/-!
# Collisions of external identifiers

A run binds no identifiers but those of its desired records, each once it comes to that
record.  If these are different and none of them is bound before, every one is still free
when its record is handled, so that nothing collides.  A failing call makes no difference:
what was done until then is taken back or stays, but either way binds nothing else.

The names of entity types may differ and still give their records the same identifiers.
-/

namespace TenantGuard

/-- An identifier stays free where nothing is bound that was not bound before. -/
theorem Store.free_of_bound_before {before after : Store} {reference : Reference}
    (boundBefore : ∀ target, after.externalId? reference = some target →
      before.externalId? reference = some target)
    (free : before.externalId? reference = none) : after.externalId? reference = none := by
  apply Option.eq_none_iff_forall_not_mem.mpr
  intro target bound
  have bound := boundBefore target bound
  rw [free] at bound
  cases bound

namespace DesiredRecord

variable {desired : DesiredRecord} {before after : Store} {reference : Reference}

/-- Settling binds no identifier. -/
theorem Settles.free {outcome : RecordOutcome} (settles : desired.Settles before outcome after)
    (free : before.externalId? reference = none) : after.externalId? reference = none :=
  Store.free_of_bound_before (fun _ bound => (settles.externalId?.mp bound).1) free

theorem Merges.free {kept : RecordId} {copies : List RecordId}
    (merges : desired.Merges before kept copies after)
    (free : before.externalId? reference = none) : after.externalId? reference = none :=
  Store.free_of_bound_before (fun _ bound => (merges.externalId?.mp bound).1) free

theorem Interrupted.free (interrupted : desired.Interrupted before after)
    (free : before.externalId? reference = none) : after.externalId? reference = none := by
  cases interrupted with
  | untouched => exact free
  | merged merges => exact merges.free free
  | settled settles => exact settles.free free

/-- Registration binds no identifier but that of the desired record. -/
theorem Identifies.free {settings : ExternalIdSettings} {id : Option RecordId}
    {collision : Option IdentifierCollision}
    (identifies : desired.Identifies settings id before collision after)
    (free : before.externalId? reference = none) (other : desired.reference settings ≠ reference) :
    after.externalId? reference = none := by
  cases identifies with
  | registered => rw [Store.externalId?_insertExternalId, if_neg other, free]
  | nobody | disabled | existing | taken => exact free

/-- An identifier that is free does not collide. -/
theorem Identifies.collision_eq_none {settings : ExternalIdSettings} {id : Option RecordId}
    {collision : Option IdentifierCollision}
    (identifies : desired.Identifies settings id before collision after)
    (free : before.externalId? (desired.reference settings) = none) : collision = none := by
  cases identifies with
  | taken _ bound =>
      rw [free] at bound
      cases bound
  | nobody | disabled | registered | existing => rfl

variable {policy : Policy} {result : RecordReport × Option IdentifierCollision}

theorem Handles.free (handles : desired.Handles policy before result after)
    (free : before.externalId? reference = none)
    (other : desired.reference policy.config.externalIds ≠ reference) :
    after.externalId? reference = none := by
  obtain ⟨between, settles, identifies⟩ := handles.steps
  exact identifies.free (settles.free free) other

theorem Handles.collision_eq_none (handles : desired.Handles policy before result after)
    (free : before.externalId? (desired.reference policy.config.externalIds) = none) :
    result.2 = none := by
  obtain ⟨between, settles, identifies⟩ := handles.steps
  exact identifies.collision_eq_none (settles.free free)

theorem references_nodup (settings : ExternalIdSettings) {list : List DesiredRecord}
    (distinct : (list.map (·.externalId)).Nodup) : (list.map (·.reference settings)).Nodup := by
  rw [List.Nodup, List.pairwise_map] at distinct ⊢
  apply distinct.imp
  intro first second different same
  exact different (congrArg Reference.name same)

end DesiredRecord

namespace Reconcile

open DesiredRecord

variable {policy : Policy} {desired : List DesiredRecord} {reference : Reference}

section

variable {before after : Store} {results : List (RecordReport × Option IdentifierCollision)}

/-- What is free, and the identifier of no record on the list, is free after the list. -/
theorem free_of_chain (chain : Chain (Handles policy) desired before results after)
    (free : before.externalId? reference = none)
    (others : ∀ record ∈ desired, record.reference policy.config.externalIds ≠ reference) :
    after.externalId? reference = none := by
  induction chain with
  | nil => exact free
  | cons first _ ih =>
      rw [List.forall_mem_cons] at others
      exact ih (first.free free others.1) others.2

theorem Breaks.free (breaks : Breaks policy desired before after)
    (free : before.externalId? reference = none)
    (others : ∀ record ∈ desired, record.reference policy.config.externalIds ≠ reference) :
    after.externalId? reference = none := by
  obtain ⟨done, broken, rest, results, between, rfl, chain, interrupted⟩ := breaks
  apply interrupted.free
  apply free_of_chain chain free
  intro record listed
  exact others record (List.mem_append_left _ listed)

/-- Records with different identifiers, all of them free, do not collide: each identifier
stays free until its record is handled. -/
theorem collisions_of_chain (chain : Chain (Handles policy) desired before results after)
    (distinct : (desired.map (·.reference policy.config.externalIds)).Nodup)
    (free : ∀ record ∈ desired,
      before.externalId? (record.reference policy.config.externalIds) = none) :
    results.filterMap (·.2) = [] := by
  induction chain with
  | nil => rfl
  | cons first _ ih =>
      rw [List.map_cons, List.nodup_cons] at distinct
      rw [List.forall_mem_cons] at free
      rw [List.filterMap_cons, first.collision_eq_none free.1]
      apply ih distinct.2
      intro record listed
      apply first.free (free.2 record listed)
      intro same
      apply distinct.1
      rw [same]
      exact List.mem_map_of_mem listed

end

variable {before after : Host}

/-- However the work on an entity type goes, it binds no identifiers but those of its
records. -/
theorem EntityRun.free {start outcome : EntityOutcome}
    (run : EntityRun policy start desired before outcome after)
    (free : before.store.externalId? reference = none)
    (others : ∀ record ∈ desired, record.reference policy.config.externalIds ≠ reference) :
    after.store.externalId? reference = none := by
  cases run with
  | finished chain left =>
      have handled := free_of_chain chain free others
      rw [left]
      exact handled
  | unclosed _ chain => exact free_of_chain chain free others
  | unopened _ left | rolledBack _ _ left =>
      rw [left]
      exact free
  | abandoned _ breaks => exact breaks.free free others

theorem EntityRun.collisions_eq_nil {start outcome : EntityOutcome}
    (run : EntityRun policy start desired before outcome after) (noCollisions : start.collisions = [])
    (distinct : (desired.map (·.reference policy.config.externalIds)).Nodup)
    (free : ∀ record ∈ desired,
      before.store.externalId? (record.reference policy.config.externalIds) = none) :
    outcome.collisions = [] := by
  cases run with
  | finished chain | unclosed _ chain => exact collisions_of_chain chain distinct free
  | unopened | rolledBack | abandoned => exact noCollisions

/-- Entity types whose records have different identifiers, all of them free, report no
collision. -/
theorem collisions_of_reconciles {group : Option RecordId} {entityTypes : List EntityType}
    {outcomes : List EntityOutcome}
    (chain : Chain (Reconciles policy group) entityTypes before outcomes after)
    (distinct : ((entityTypes.flatMap (policy.desiredRecords · group)).map
      (·.reference policy.config.externalIds)).Nodup)
    (free : ∀ record ∈ entityTypes.flatMap (policy.desiredRecords · group),
      before.store.externalId? (record.reference policy.config.externalIds) = none) :
    ∀ outcome ∈ outcomes, outcome.collisions = [] := by
  induction chain with
  | nil => simp
  | cons first _ ih =>
      rw [List.flatMap_cons] at distinct free
      rw [List.map_append, List.nodup_append] at distinct
      rw [List.forall_mem_append] at free
      obtain ⟨distinctHere, distinctThere, apart⟩ := distinct
      rw [List.forall_mem_cons]
      refine ⟨first.run.collisions_eq_nil rfl distinctHere free.1, ih distinctThere ?_⟩
      intro record listed
      apply first.run.free (free.2 record listed)
      intro earlier listedEarlier
      exact apart _ (List.mem_map_of_mem listedEarlier) _ (List.mem_map_of_mem listed)

theorem PassRun.collisions_eq_nil {summary : Summary} (pass : PassRun policy before summary after)
    (distinct : ((policy.allDesired before.store).map
      (·.reference policy.config.externalIds)).Nodup)
    (free : ∀ record ∈ policy.allDesired before.store,
      before.store.externalId? (record.reference policy.config.externalIds) = none) :
    summary.collisions = [] ∧ ∀ outcome ∈ summary.outcomes, outcome.collisions = [] := by
  obtain ⟨start, outcomes, sameStore, _, chain, rfl⟩ := pass.steps
  rw [← sameStore] at chain distinct free
  have nothing := collisions_of_reconciles chain distinct free
  rw [(Summary.foldl_absorb_rest _ _).2.1, (Summary.foldl_absorb_rest _ _).2.2.1,
    List.nil_append, List.nil_append, List.flatMap_eq_nil_iff]
  exact ⟨nothing, nothing⟩

/-- Sorting by insertion orders the entity types in the same way, those of one name
included. -/
theorem ordered_eq_insertionSort (entityTypes : List EntityType) :
    ordered entityTypes =
      entityTypes.insertionSort fun first second => first.name ≤ second.name := by
  induction entityTypes with
  | nil => rw [ordered, List.mergeSort_nil, List.insertionSort_nil]
  | cons entityType others ih =>
      -- The new one is put in front of the first that is not less.
      obtain ⟨less, rest, sorted, sortedOthers, notBelow⟩ :=
        List.mergeSort_cons name_le_trans name_le_total entityType others
      have ascending := List.pairwise_mergeSort name_le_trans name_le_total (entityType :: others)
      rw [List.insertionSort_cons, ← ih, ordered, ordered, sorted, sortedOthers]
      rw [sorted] at ascending
      clear sorted sortedOthers ih
      induction less with
      | nil =>
          cases rest with
          | nil => rfl
          | cons next rest =>
              have below := (List.pairwise_cons.mp ascending).1 next List.mem_cons_self
              rw [List.nil_append, List.nil_append, List.orderedInsert_cons,
                if_pos (of_decide_eq_true below)]
      | cons first less ih =>
          rw [List.cons_append, List.pairwise_cons] at ascending
          rw [List.forall_mem_cons] at notBelow
          rw [List.cons_append, List.cons_append, List.orderedInsert_cons, if_neg]
          · rw [← ih notBelow.2 ascending.2]
          · simpa using notBelow.1

end Reconcile

theorem Secure.Passes.collisions_eq_nil {policy : Policy} {before : Host} {summary : Summary}
    {after : Store} (passes : Passes policy before summary after)
    (distinct : ((policy.allDesired before.store).map
      (·.reference policy.config.externalIds)).Nodup)
    (unbound : ∀ reference, before.store.externalId? reference = none) :
    summary.collisions = [] ∧ ∀ outcome ∈ summary.outcomes, outcome.collisions = [] := by
  obtain ⟨opened, _, saved, goesOn, pass, _⟩ := passes.steps
  apply pass.collisions_eq_nil
  · rw [Policy.allDesired_congr goesOn.setting]
    exact distinct
  · intro record _
    rw [saved]
    exact unbound _

/-- The records of a catalog have different external identifiers, with and without a manager
group, exactly if the names of its entity types are different with underscores for the dots.
If those of the secured ones are, a run on a store without external identifiers reports no
collision, whichever calls its host loses or refuses, and on a host that nothing hinders it
does report what it did. -/
theorem secure_collisionless (policy : Policy) :
    (∀ entityTypes : List EntityType,
      (∀ group, ((entityTypes.flatMap (policy.desiredRecords · group)).map
        (·.externalId)).Nodup) ↔ (entityTypes.map (·.underscored)).Nodup) ∧
    ∀ session : Session, session.host.Orderly →
      (∀ reference, session.host.store.externalId? reference = none) →
      (session.host.store.securedTypes.map (·.underscored)).Nodup →
      (¬ session.host.Hindered → ((session.act (secure policy)).1.reconcile).isSome) ∧
      ∀ summary, (session.act (secure policy)).1.reconcile = some summary →
        summary.collisions = [] ∧ ∀ outcome ∈ summary.outcomes, outcome.collisions = [] := by
  refine ⟨policy.externalIds_nodup_iff, ?_⟩
  intro session orderly unbound apart
  have runs : Secure.Runs policy session.host _ _ := secure_yields orderly policy
  constructor
  · intro unhindered
    obtain ⟨summary, reported, _⟩ := runs.passes unhindered
    rw [reported]
    rfl
  · intro summary reported
    have distinct := (policy.externalIds_nodup_iff session.host.store.securedTypes).mpr apart
      (policy.groupIn session.host.store)
    apply (runs.passes_of_summary reported).collisions_eq_nil _ unbound
    exact DesiredRecord.references_nodup _ distinct

/-- A store with entity types of these names and the manager group, and nothing else. -/
def Store.listing (names : List String) : Store :=
  let operations : List Operation := names.map .addEntityType ++
    [.addGroup ⟨"multicompany_instead_of_multidatabase", "group_company_manager"⟩]
  operations.foldl Operation.apply {}

theorem secure_collisionless_listing :
    let policy : Policy := { classifier := .empty, config := { externalIds := { enabled := true } } }
    let store := Store.listing ["sale.order", "sale.order_line"]
    let report := (Session.act { host := { store } } (secure policy)).1
    (∀ reference, store.externalId? reference = none) ∧
      (store.entityTypes.map (·.underscored)).Nodup ∧
      ∃ summary, report.reconcile = some summary ∧ summary.collisions = [] := by
  intro policy store report
  have unbound : ∀ reference, store.externalId? reference = none := fun reference => rfl
  have distinct : (store.entityTypes.map (·.underscored)).Nodup := by decide
  have securedApart : (store.securedTypes.map (·.underscored)).Nodup := by
    rw [Store.securedTypes, Reconcile.ordered_eq_insertionSort]
    decide
  obtain ⟨reported, none⟩ := (secure_collisionless policy).2 { host := { store } }
    (Host.orderly_of_default store) unbound securedApart
  obtain ⟨summary, isSummary⟩ := Option.isSome_iff_exists.mp
    (reported (Host.unhindered_of_accepting rfl))
  exact ⟨unbound, distinct, summary, isSummary, (none summary isSummary).1⟩

/-- Where names differ in a dot only, the records of the second entity type are refused the
identifiers of those of the first. -/
theorem secure_collides_listing :
    let policy : Policy :=
      { classifier := .empty, config := { externalIds := { enabled := true, module := "base" } } }
    let store := Store.listing ["sale.order", "sale_order"]
    let identifiers := (store.entityTypes.flatMap
      (policy.desiredRecords · (policy.groupIn store))).map (·.externalId)
    let report := (Session.act { host := { store } } (secure policy)).1
    (store.entityTypes.map (·.name)).Nodup ∧ ¬ identifiers.Nodup ∧
      (∀ reference, store.externalId? reference = none) ∧
      report.reconcile.map (·.collisions) =
        some [⟨⟨"base", "sale_order_global_read_and_edit_rule"⟩, ⟨"ir.rule", 4⟩, ⟨"ir.rule", 7⟩⟩,
          ⟨⟨"base", "sale_order_company_manager_access"⟩, ⟨"ir.model.access", 5⟩,
            ⟨"ir.model.access", 8⟩⟩,
          ⟨⟨"base", "sale_order_company_manager_rule"⟩, ⟨"ir.rule", 6⟩, ⟨"ir.rule", 9⟩⟩] := by
  intro policy store identifiers report
  -- Sorting by insertion gives the same lists and can be evaluated here.
  have sorts (ids : List Int) : ids.mergeSort (fun first second => first ≤ second) =
      ids.insertionSort (· ≤ ·) := List.mergeSort_eq_insertionSort (· ≤ ·) ids
  refine ⟨by decide, by decide +kernel, fun reference => rfl, ?_⟩
  dsimp only [report]
  delta secure Secure.reconcile Reconcile.all Reconcile.entity Reconcile.entity.run
    Reconcile.records Reconcile.one Reconcile.record
  simp only [sorts, Reconcile.ordered_eq_insertionSort]
  decide +kernel

end TenantGuard
