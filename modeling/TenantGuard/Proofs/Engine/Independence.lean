import Mathlib.Data.List.Nodup
import TenantGuard.Proofs.Engine.Refusals
import TenantGuard.Proofs.Engine.Renaming

/-!
# Entity types do not interfere

The desired records of an entity type are found by keys that ask for that entity type, so
reconciling it reads and changes the records about it and no others.  What becomes of an
entity type therefore depends on the records about it, on the writes that are rejected for
it, and on the manager group, whatever else the store holds.

Two stores that agree in these are left with the same records about the entity type.  Only
the ids of created records may be others, since ids are handed out to all entity types.
-/

namespace TenantGuard

/-- Every record under the key is about the entity type. -/
def DesiredRecord.About (desired : DesiredRecord) (model : RecordId) : Prop :=
  ∀ values, desired.matched values → values.read "model_id" = .ref model

theorem Policy.about_of_mem_desiredRecords {policy : Policy} {entityType : EntityType}
    {group : Option RecordId} {desired : DesiredRecord}
    (membership : desired ∈ policy.desiredRecords entityType group) :
    desired.About entityType.id := by
  intro values matched
  have accepted := DesiredRecord.accepts_of_matched matched (model_of_mem_desiredRecords membership)
  exact of_decide_eq_true accepted

namespace Store

/-- The records about an entity type. -/
def recordsAbout (store : Store) (kind : RecordKind) (model : RecordId) : RecordTable :=
  RecordTable.matching (store.data.records kind) fun values =>
    values.read "model_id" = .ref model

/-- The stores hold the same records about an entity type and reject the same writes for
it. -/
structure SameAbout (first second : Store) (model : RecordId) : Prop where
  records : ∀ kind, second.recordsAbout kind model = first.recordsAbout kind model
  rejects : ∀ kind, (kind, model) ∈ second.rejectedWrites ↔ (kind, model) ∈ first.rejectedWrites

variable {store first second : Store} {kind : RecordKind} {model id : RecordId} {values : Values}
  {desired : DesiredRecord}

theorem getElem?_recordsAbout_eq_some :
    (store.recordsAbout kind model)[id]? = some values ↔
      (store.data.records kind)[id]? = some values ∧ values.read "model_id" = .ref model := by
  rw [recordsAbout, RecordTable.getElem?_matching_eq_some, decide_eq_true_eq]

/-- The records under a key that asks for an entity type are among those about it. -/
theorem getElem?_matching_of_about (about : desired.About model) :
    (store.matching desired)[id]? = some values ↔
      (store.recordsAbout desired.kind model)[id]? = some values ∧ desired.matched values := by
  rw [matching, RecordTable.getElem?_matching_eq_some, getElem?_recordsAbout_eq_some]
  constructor
  · rintro ⟨stored, matched⟩
    exact ⟨⟨stored, about values matched⟩, matched⟩
  · rintro ⟨⟨stored, _⟩, matched⟩
    exact ⟨stored, matched⟩

theorem mem_recordsAbout_of_mem_matching (about : desired.About model)
    (found : id ∈ store.matching desired) : id ∈ store.recordsAbout desired.kind model := by
  obtain ⟨values, found⟩ := RecordTable.mem_iff_stored.mp found
  rw [getElem?_matching_of_about about] at found
  exact RecordTable.mem_of_stored found.1

theorem SameAbout.symm (same : first.SameAbout second model) : second.SameAbout first model :=
  ⟨fun kind => (same.records kind).symm, fun kind => (same.rejects kind).symm⟩

theorem SameAbout.trans {third : Store} (same : first.SameAbout second model)
    (sameToo : second.SameAbout third model) : first.SameAbout third model where
  records := fun kind => (sameToo.records kind).trans (same.records kind)
  rejects := fun kind => (sameToo.rejects kind).trans (same.rejects kind)

theorem WellFormed.le_of_mem_recordsAbout (formed : store.WellFormed)
    (present : id ∈ store.recordsAbout kind model) : id ≤ store.lastId :=
  formed.data kind id (Std.ExtTreeMap.mem_of_mem_filter present)

theorem SameAbout.matching (same : first.SameAbout second model) (about : desired.About model) :
    second.matching desired = first.matching desired := by
  apply Std.ExtTreeMap.ext_getElem?
  intro id
  apply Option.ext
  intro values
  rw [getElem?_matching_of_about about, getElem?_matching_of_about about, same.records]

theorem SameAbout.rejectedModel? (same : first.SameAbout second model)
    (about : values.read "model_id" = .ref model) :
    second.rejectedModel? kind values = first.rejectedModel? kind values := by
  rw [Store.rejectedModel?, Store.rejectedModel?, about]
  simp only [same.rejects]

/-- Both stores refuse the same for an entity type. -/
theorem SameAbout.refused_iff (same : first.SameAbout second model)
    (coherent : desired.Coherent) (about : desired.About model) {cause : StoreError} :
    desired.Refused second cause ↔ desired.Refused first cause :=
  DesiredRecord.refused_congr coherent (same.matching about) fun values matched =>
    same.rejectedModel? (about values matched)

end Store

namespace Accounted

variable {list listToo : List SettledRecord}
  {before after first firstAfter second secondAfter : Store} {kind : RecordKind}
  {model id last final finalToo offset : RecordId}

/-- Records under no key of the list are as they were. -/
theorem getElem?_recordsAbout (accounted : Accounted list before after) {values : Values}
    (unlike : ∀ entry ∈ list, entry.1.kind = kind → ¬ entry.1.matched values) :
    (after.recordsAbout kind model)[id]? = some values ↔
      (before.recordsAbout kind model)[id]? = some values := by
  rw [Store.getElem?_recordsAbout_eq_some, Store.getElem?_recordsAbout_eq_some,
    accounted.rest kind id values unlike]

/-- Other entity types leave the records about an entity type as they are. -/
theorem recordsAbout (accounted : Accounted list before after)
    (others : ∀ entry ∈ list, ∃ other, other ≠ model ∧ entry.1.About other) (kind : RecordKind) :
    after.recordsAbout kind model = before.recordsAbout kind model := by
  apply Std.ExtTreeMap.ext_getElem?
  intro id
  apply Option.ext
  intro values
  rw [Store.getElem?_recordsAbout_eq_some, Store.getElem?_recordsAbout_eq_some]
  apply and_congr_left
  intro isAbout
  apply accounted.rest kind id values
  intro entry listed _ matched
  obtain ⟨other, different, about⟩ := others entry listed
  have isOther := about values matched
  rw [isAbout, FieldValue.ref.injEq] at isOther
  exact different isOther.symm

/-- A record about an entity type was there before, or it has a new id. -/
theorem new_or_old (accounted : Accounted list before after)
    (about : ∀ entry ∈ list, entry.1.About model) (present : id ∈ after.recordsAbout kind model) :
    before.lastId < id ∨ id ∈ before.recordsAbout kind model := by
  obtain ⟨values, stored⟩ := RecordTable.mem_iff_stored.mp present
  rcases SettledRecord.under_key_or_none list kind values with
    ⟨entry, listed, rfl, matched⟩ | unlike
  · have left := (Store.getElem?_matching_of_about (about entry listed)).mpr ⟨stored, matched⟩
    have known := (accounted.leaves entry listed).found_of_left
      (left ▸ Option.some_ne_none values)
    rw [← Option.isSome_iff_ne_none, ← Std.ExtTreeMap.mem_iff_isSome_getElem?] at known
    exact known.imp_right (Store.mem_recordsAbout_of_mem_matching (about entry listed))
  · right
    rw [accounted.getElem?_recordsAbout unlike] at stored
    exact RecordTable.mem_of_stored stored

section TwoStores

variable (same : first.SameAbout second model) (about : ∀ entry ∈ list, entry.1.About model)
  (sameDesired : list.map (·.1) = listToo.map (·.1))
  (accounted : Accounted list first firstAfter)
  (accountedToo : Accounted listToo second secondAfter)
  (numbered : Numbered first.lastId (list.map (·.2)) final)
  (numberedToo : Numbered second.lastId (listToo.map (·.2)) finalToo)
  (distance : second.lastId = first.lastId + offset) (le : last ≤ first.lastId)
  (old : ∀ kind, ∀ id ∈ first.recordsAbout kind model, id ≤ last)

include same about sameDesired accounted accountedToo numbered numberedToo distance le old

/-- What two stores are left with under each key of a list about an entity type. -/
theorem renamed_matching :
    List.Forall₂ (fun entry other : SettledRecord =>
      (entry.1, entry.2.renamed (RecordId.moved last offset)) = other ∧
        RecordTable.Renamed (RecordId.moved last offset) (firstAfter.matching entry.1)
          (secondAfter.matching entry.1)) list listToo := by
  rw [← List.forall₂_eq_eq_eq, List.forall₂_map_left_iff, List.forall₂_map_right_iff,
    List.forall₂_iff_zip] at sameDesired
  have sameFound : List.Forall₂ (fun entry other : SettledRecord =>
      first.matching entry.1 = second.matching other.1) list listToo := by
    rw [List.forall₂_iff_zip]
    refine ⟨sameDesired.1, ?_⟩
    intro entry other paired
    rw [← sameDesired.2 paired, same.matching (about entry (List.of_mem_zip paired).1)]
  have created := accounted.created_alike distance sameFound accountedToo numbered numberedToo
  rw [List.forall₂_iff_zip] at sameFound created ⊢
  refine ⟨created.1, ?_⟩
  intro entry other paired
  obtain ⟨listed, listedToo⟩ := List.of_mem_zip paired
  have sameRecord : entry.1 = other.1 := sameDesired.2 paired
  have leaves := accounted.leaves entry listed
  have leavesToo := accountedToo.leaves other listedToo
  rw [← sameFound.2 paired, ← sameRecord] at leavesToo
  have moved : ∀ id, entry.2 = .created id →
      other.2 = .created (RecordId.moved last offset id) := by
    intro id isCreated
    rw [isCreated] at leaves
    rw [RecordId.moved_of_new (Int.lt_of_le_of_lt le leaves.fresh)]
    exact (created.2 paired id).mp isCreated
  have stays : ∀ id ∈ first.matching entry.1, RecordId.moved last offset id = id := by
    intro id found
    have present := Store.mem_recordsAbout_of_mem_matching (about entry listed) found
    exact RecordId.moved_of_old (old _ id present)
  obtain ⟨sameOutcome, renamed⟩ := leaves.renamed leavesToo moved stays
  exact ⟨Prod.ext sameRecord sameOutcome.symm, renamed⟩

/-- Two stores that are the same about an entity type are left with the same records about
it, up to the ids of created ones. -/
theorem renamed :
    listToo = list.map (fun entry => (entry.1, entry.2.renamed (RecordId.moved last offset))) ∧
      ∀ kind, RecordTable.Renamed (RecordId.moved last offset)
        (firstAfter.recordsAbout kind model) (secondAfter.recordsAbout kind model) := by
  have pairs := renamed_matching same about sameDesired accounted accountedToo numbered
    numberedToo distance le old
  have sameList : List.Forall₂ Eq
      (list.map fun entry => (entry.1, entry.2.renamed (RecordId.moved last offset)))
      listToo := by
    rw [List.forall₂_map_left_iff]
    exact pairs.imp fun _ _ both => both.1
  rw [List.forall₂_eq_eq_eq] at sameList
  refine ⟨sameList.symm, ?_⟩
  rw [List.forall₂_iff_zip] at pairs
  intro kind id values
  rcases SettledRecord.under_key_or_none list kind values with
    ⟨entry, listed, rfl, matched⟩ | unlike
  · -- Under a key the records about the entity type are those under the key.
    have found : ∀ {store : Store} {id : RecordId},
        (store.recordsAbout entry.1.kind model)[id]? = some values ↔
          (store.matching entry.1)[id]? = some values := by
      intro store id
      rw [Store.getElem?_matching_of_about (about entry listed), and_iff_left matched]
    rw [← List.map_fst_zip (Nat.le_of_eq pairs.1)] at listed
    obtain ⟨⟨_, other⟩, paired, rfl⟩ := List.mem_map.mp listed
    simp only [found]
    exact (pairs.2 paired).2 id values
  · -- Under no key they are as they were, and all of them keep their ids.
    have unlikeToo : ∀ entry ∈ listToo, entry.1.kind = kind → ¬ entry.1.matched values := by
      rw [← sameList, List.forall_mem_map]
      exact unlike
    rw [accountedToo.getElem?_recordsAbout unlikeToo, same.records]
    simp only [accounted.getElem?_recordsAbout unlike]
    exact RecordTable.renamed_self (fun id present => RecordId.moved_of_old (old kind id present))
      id values

end TwoStores

end Accounted

/-- Where external identifiers are switched off none is found to be taken. -/
theorem DesiredRecord.Identifies.uncollided {settings : ExternalIdSettings}
    {desired : DesiredRecord} {id : Option RecordId} {before after : Store}
    {collision : Option IdentifierCollision}
    (identifies : desired.Identifies settings id before collision after)
    (disabled : settings.enabled = false) : collision = none := by
  cases identifies with
  | nobody | disabled => rfl
  | registered | existing => rfl
  | taken enabled =>
      rw [disabled] at enabled
      cases enabled

namespace Reconcile

variable {policy : Policy} {group : Option RecordId} {entityType : EntityType}
  {before after first firstAfter second secondAfter : Host} {outcome other : EntityOutcome}
  {last offset : RecordId}

/-- Without external identifiers there are no collisions. -/
theorem cumulative_uncollided (disabled : policy.config.externalIds.enabled = false) :
    Cumulative policy fun _ collisions _ _ => collisions = [] where
  idle := fun _ _ => rfl
  handled := by
    intro _ _ _ _ handles _ _
    obtain ⟨_, _, identifies⟩ := handles.steps
    rw [Option.toList_eq_nil_iff]
    exact identifies.uncollided disabled
  append := by
    rintro _ _ _ _ _ _ _ rfl rfl _
    rfl

/-- An entity type that was brought to an end is accounted for by the reports in its
outcome. -/
theorem Reconciles.finished (disabled : policy.config.externalIds.enabled = false)
    (reconciles : Reconciles policy group entityType before outcome after)
    (formed : before.store.WellFormed)
    (finished : outcome = { startOutcome policy entityType with
      records := outcome.records, collisions := outcome.collisions }) :
    ∃ list : List SettledRecord, list.map (·.1) = policy.desiredRecords entityType group ∧
      outcome = { startOutcome policy entityType with
        records := list.map SettledRecord.report } ∧
      Accounted list before.store after.store ∧
      Numbered before.store.lastId (list.map (·.2)) after.store.lastId := by
  have unfailed : ∀ failure ∈ outcome.failures, failure.kind ≠ .store := by
    rw [finished]
    exact fun _ => kind_of_startOutcome
  obtain ⟨list, _, complete, reported, ⟨accounted, tallied⟩, uncollided⟩ :=
    (((cumulative_accounted policy).and (cumulative_tallied policy)).and
      (cumulative_uncollided disabled)).of_reconciles reconciles (.inr unfailed) formed
  rw [reported, uncollided] at finished
  exact ⟨list, complete unfailed, finished, accounted, tallied.numbered⟩

/-- Hosts that lose no call, and whose stores are the same about an entity type, come to the
same outcome for it and are left with the same records about it, up to the ids of created
ones. -/
theorem Reconciles.independent (disabled : policy.config.externalIds.enabled = false)
    (reconciles : Reconciles policy group entityType first outcome firstAfter)
    (reconcilesToo : Reconciles policy group entityType second other secondAfter)
    (reliable : ∀ method, ¬ first.Loses method) (reliableToo : ∀ method, ¬ second.Loses method)
    (formed : first.store.WellFormed) (formedToo : second.store.WellFormed)
    (same : first.store.SameAbout second.store entityType.id)
    (distance : second.store.lastId = first.store.lastId + offset)
    (le : last ≤ first.store.lastId)
    (old : ∀ kind, ∀ id ∈ first.store.recordsAbout kind entityType.id, id ≤ last) :
    other = outcome.renamed (RecordId.moved last offset) ∧
      (∀ kind, RecordTable.Renamed (RecordId.moved last offset)
        (firstAfter.store.recordsAbout kind entityType.id)
        (secondAfter.store.recordsAbout kind entityType.id)) ∧
      ∀ kind, ∀ id ∈ firstAfter.store.recordsAbout kind entityType.id,
        first.store.lastId < id ∨ id ∈ first.store.recordsAbout kind entityType.id := by
  have about : ∀ record ∈ policy.desiredRecords entityType group, record.About entityType.id :=
    fun _ => Policy.about_of_mem_desiredRecords
  have coherent : ∀ record ∈ policy.desiredRecords entityType group, record.Coherent :=
    fun _ => Policy.coherent_of_mem_desiredRecords
  have apart := policy.desiredRecords_apart entityType group
  have sameRefused : ∀ record ∈ policy.desiredRecords entityType group, ∀ cause,
      record.Refused second.store cause ↔ record.Refused first.store cause :=
    fun record listed _ => same.refused_iff (coherent record listed) (about record listed)
  rcases reconciles.run.finished_or_refused reliable coherent apart formed with
    ⟨accepted, finished⟩ | ⟨cause, refused, restored, givenUp⟩
  · rcases reconcilesToo.run.finished_or_refused reliableToo coherent apart formedToo with
      ⟨_, finishedToo⟩ | ⟨causeToo, refusedToo, _⟩
    · obtain ⟨list, sameDesired, rfl, accounted, numbered⟩ :=
        reconciles.finished disabled formed finished
      obtain ⟨listToo, sameDesiredToo, rfl, accountedToo, numberedToo⟩ :=
        reconcilesToo.finished disabled formedToo finishedToo
      have aboutListed : ∀ entry ∈ list, entry.1.About entityType.id := by
        rw [← sameDesired, List.forall_mem_map] at about
        exact about
      obtain ⟨rfl, renamed⟩ := Accounted.renamed same aboutListed
        (sameDesired.trans sameDesiredToo.symm) accounted accountedToo numbered numberedToo
        distance le old
      refine ⟨?_, renamed, fun kind id => accounted.new_or_old aboutListed⟩
      rw [EntityOutcome.renamed, List.map_map, List.map_map]
      rfl
    · obtain ⟨record, listed, refused⟩ := refusedToo.refused
      rw [sameRefused record listed] at refused
      exact absurd refused (accepted record listed _)
  · rcases reconcilesToo.run.finished_or_refused reliableToo coherent apart formedToo with
      ⟨accepted, _⟩ | ⟨causeToo, refusedToo, restoredToo, rfl⟩
    · obtain ⟨record, listed, refused⟩ := refused.refused
      rw [← sameRefused record listed] at refused
      exact absurd refused (accepted record listed _)
    · have sameCause := (refused.congr sameRefused).unique refusedToo
      have untouched : ∀ kind, firstAfter.store.recordsAbout kind entityType.id =
          first.store.recordsAbout kind entityType.id := by
        intro kind
        rw [Store.recordsAbout, restored]
        rfl
      have untouchedToo : ∀ kind, secondAfter.store.recordsAbout kind entityType.id =
          first.store.recordsAbout kind entityType.id := by
        intro kind
        rw [← same.records, Store.recordsAbout, restoredToo]
        rfl
      refine ⟨?_, ?_, ?_⟩
      · rw [givenUp, sameCause]
        rfl
      · intro kind
        rw [untouched, untouchedToo]
        exact RecordTable.renamed_self fun id present =>
          RecordId.moved_of_old (old kind id present)
      · intro kind id present
        rw [untouched] at present
        exact .inr present

/-- Entity types leave everything about another one as it is. -/
theorem sameAbout_of_chain {entityTypes : List EntityType} {outcomes : List EntityOutcome}
    {model : RecordId} (chain : Chain (Reconciles policy group) entityTypes before outcomes after)
    (reliable : ∀ method, ¬ before.Loses method) (distinct : (entityTypes.map (·.id)).Nodup)
    (others : ∀ other ∈ entityTypes, other.id ≠ model) (formed : before.store.WellFormed) :
    before.store.SameAbout after.store model := by
  obtain ⟨list, sublist, _, _, accounted⟩ :=
    (cumulative_accounted policy).of_chain_of_reconciles chain
      (.inl ⟨forgets_accounted, reliable _⟩)
      (policy.flatMap_desiredRecords_apart group distinct) formed
  constructor
  · apply accounted.recordsAbout
    intro entry listed
    obtain ⟨other, among, wanted⟩ :=
      List.mem_flatMap.mp (sublist.subset (List.mem_map_of_mem listed))
    exact ⟨other.id, others other among, Policy.about_of_mem_desiredRecords wanted⟩
  · intro kind
    rw [(continues_of_chain chain).setting.rejectedWrites]

/-- What a pass does about an entity type, it does where it reconciles that entity type. -/
theorem PassRun.at_entityType {summary : Summary} (pass : PassRun policy before summary after)
    (reliable : ∀ method, ¬ before.Loses method) (formed : before.store.WellFormed)
    (secured : entityType ∈ before.store.securedTypes) :
    ∃ outcome start reached,
      (entityType, outcome) ∈ before.store.securedTypes.zip summary.outcomes ∧
      Reconciles policy (policy.groupIn before.store) entityType start outcome reached ∧
      before.Continues start ∧ before.store.SameAbout start.store entityType.id ∧
      reached.store.SameAbout after.store entityType.id := by
  obtain ⟨start, outcomes, sameStore, continues, chain, rfl⟩ := pass.steps
  rw [(Summary.foldl_absorb_rest _ _).2.2.1, List.nil_append]
  obtain ⟨done, rest, _, outcome, _, between, reached, split, paired, earlier, reconciles,
    later⟩ := chain.at_input secured
  have distinct := formed.securedTypes_distinct
  rw [split, List.map_append, List.map_cons, List.nodup_middle, List.nodup_cons,
    List.nodup_append', List.mem_append, not_or] at distinct
  obtain ⟨⟨notBefore, notAfter⟩, distinctBefore, distinctAfter, _⟩ := distinct
  rw [← sameStore] at formed
  have goesOn := continues_of_chain earlier
  have stillGoesOn := goesOn.trans reconciles.continues
  have sameBefore : start.store.SameAbout between.store entityType.id := by
    apply sameAbout_of_chain earlier _ distinctBefore _ formed
    · exact fun method lost => reliable method (continues.loses lost)
    · rintro other listed sameId
      exact notBefore (sameId ▸ List.mem_map_of_mem listed)
  have sameAfter : reached.store.SameAbout after.store entityType.id := by
    apply sameAbout_of_chain later _ distinctAfter _ (stillGoesOn.wellFormed formed)
    · exact fun method lost => reliable method (continues.loses (stillGoesOn.loses lost))
    · rintro other listed sameId
      exact notAfter (sameId ▸ List.mem_map_of_mem listed)
  rw [sameStore] at sameBefore
  exact ⟨outcome, between, reached, paired, reconciles, continues.trans goesOn, sameBefore,
    sameAfter⟩

/-- A pass leaves everything about an entity type that is not secured as it is. -/
theorem PassRun.sameAbout {summary : Summary} (pass : PassRun policy before summary after)
    (reliable : ∀ method, ¬ before.Loses method) (formed : before.store.WellFormed)
    (listed : entityType ∈ before.store.entityTypes)
    (unsecured : entityType.name = EntityType.ruleName) :
    before.store.SameAbout after.store entityType.id := by
  obtain ⟨start, outcomes, sameStore, continues, chain, _⟩ := pass.steps
  have distinct := formed.securedTypes_distinct
  have others : ∀ other ∈ before.store.securedTypes, other.id ≠ entityType.id := by
    intro other secured sameId
    obtain ⟨listedToo, notRules⟩ := Store.mem_securedTypes.mp secured
    rw [List.inj_on_of_nodup_map formed.distinct listedToo listed sameId] at notRules
    exact notRules unsecured
  rw [← sameStore] at formed
  have same := sameAbout_of_chain chain (fun method lost => reliable method (continues.loses lost))
    distinct others formed
  rw [sameStore] at same
  exact same

/-- Passes over stores that are the same about an entity type come to the same outcome for it
and leave the same records about it, up to the ids of created ones. -/
theorem PassRun.independent {summary summaryToo : Summary}
    (disabled : policy.config.externalIds.enabled = false)
    (pass : PassRun policy first summary firstAfter)
    (passToo : PassRun policy second summaryToo secondAfter)
    (reliable : ∀ method, ¬ first.Loses method) (reliableToo : ∀ method, ¬ second.Loses method)
    (formed : first.store.WellFormed) (formedToo : second.store.WellFormed)
    (secured : entityType ∈ first.store.securedTypes)
    (securedToo : entityType ∈ second.store.securedTypes)
    (sameGroup : policy.groupIn first.store = policy.groupIn second.store)
    (same : first.store.SameAbout second.store entityType.id) :
    ∃ outcome offset, (entityType, outcome) ∈ first.store.securedTypes.zip summary.outcomes ∧
      (entityType, outcome.renamed (RecordId.moved first.store.lastId offset)) ∈
        second.store.securedTypes.zip summaryToo.outcomes ∧
      ∀ kind, RecordTable.Moved first.store.lastId second.store.lastId offset
        (firstAfter.store.recordsAbout kind entityType.id)
        (secondAfter.store.recordsAbout kind entityType.id) := by
  obtain ⟨outcome, start, left, paired, reconciles, goesOn, sameBefore, sameAfter⟩ :=
    pass.at_entityType reliable formed secured
  obtain ⟨outcomeToo, startToo, leftToo, pairedToo, reconcilesToo, goesOnToo, sameBeforeToo,
    sameAfterToo⟩ := passToo.at_entityType reliableToo formedToo securedToo
  rw [← sameGroup] at reconcilesToo
  have old : ∀ kind, ∀ id ∈ start.store.recordsAbout kind entityType.id,
      id ≤ first.store.lastId ∧ id ≤ second.store.lastId := by
    intro kind id present
    rw [sameBefore.records] at present
    refine ⟨formed.le_of_mem_recordsAbout present, ?_⟩
    rw [← same.records] at present
    exact formedToo.le_of_mem_recordsAbout present
  have le := goesOn.setting.lastId_le
  have leToo := goesOnToo.setting.lastId_le
  have distance : startToo.store.lastId =
      start.store.lastId + (startToo.store.lastId - start.store.lastId) := by
    rw [Int.add_comm, Int.sub_add_cancel]
  obtain ⟨rfl, renamed, known⟩ := reconciles.independent disabled reconcilesToo
    (fun method lost => reliable method (goesOn.loses lost))
    (fun method lost => reliableToo method (goesOnToo.loses lost))
    (goesOn.wellFormed formed) (goesOnToo.wellFormed formedToo)
    ((sameBefore.symm.trans same).trans sameBeforeToo) distance le
    fun kind id present => (old kind id present).1
  refine ⟨outcome, _, paired, pairedToo, ?_⟩
  intro kind
  rw [sameAfter.records, sameAfterToo.records]
  apply (renamed kind).moved le (distance ▸ leToo)
  intro id present
  exact (known kind id present).imp_right (old kind id)

/-- Without external identifiers, what a pass makes of an entity type does not depend on the
other ones.  Take two stores whose catalogs list the entity type under the same id, which
find the same manager group, hold the same records about the entity type and reject the same
writes for it.  A pass over either returns, comes to the same outcome for the entity type,
and leaves the same records about it, whatever else the stores hold.  Only the records that
are created have other ids: in both stores they are new, and all of them are moved by one
offset. -/
theorem all_independent (policy : Policy)
    (disabled : policy.config.externalIds.enabled = false) {first second : Store}
    (reached : first.Reachable) (reachedToo : second.Reachable) {entityType : EntityType}
    (listed : entityType ∈ first.entityTypes) (listedToo : entityType ∈ second.entityTypes)
    (sameGroup : policy.groupIn first = policy.groupIn second)
    (same : first.SameAbout second entityType.id) :
    ∃ (summary summaryToo : Summary) (after afterToo : Session) (offset : RecordId),
      Session.run { host := { store := first } } (all policy) = (.ok summary, after) ∧
      Session.run { host := { store := second } } (all policy) = (.ok summaryToo, afterToo) ∧
      (entityType.name ≠ EntityType.ruleName →
        ∃ outcome, (entityType, outcome) ∈ first.securedTypes.zip summary.outcomes ∧
          (entityType, outcome.renamed (RecordId.moved first.lastId offset)) ∈
            second.securedTypes.zip summaryToo.outcomes) ∧
      ∀ kind, RecordTable.Moved first.lastId second.lastId offset
        (after.host.store.recordsAbout kind entityType.id)
        (afterToo.host.store.recordsAbout kind entityType.id) := by
  have formed := reached.wellFormed
  have formedToo := reachedToo.wellFormed
  have reliable := Host.reliable_of_default first
  have reliableToo := Host.reliable_of_default second
  obtain ⟨summary, after, ran, pass⟩ := @all_returned { host := { store := first } }
    (Host.orderly_of_default first) reliable policy
  obtain ⟨summaryToo, afterToo, ranToo, passToo⟩ := @all_returned { host := { store := second } }
    (Host.orderly_of_default second) reliableToo policy
  by_cases unsecured : entityType.name = EntityType.ruleName
  · have sameBefore := pass.sameAbout reliable formed listed unsecured
    have sameAfter := sameBefore.symm.trans same
      |>.trans (passToo.sameAbout reliableToo formedToo listedToo unsecured)
    refine ⟨summary, summaryToo, after, afterToo, 0, ran, ranToo,
      fun secured => absurd unsecured secured, ?_⟩
    intro kind
    rw [sameAfter.records]
    apply RecordTable.moved_self
    intro id present
    rw [sameBefore.records] at present
    exact formed.le_of_mem_recordsAbout present
  · obtain ⟨outcome, offset, paired, pairedToo, moved⟩ := pass.independent disabled passToo
      reliable reliableToo formed formedToo (Store.mem_securedTypes.mpr ⟨listed, unsecured⟩)
      (Store.mem_securedTypes.mpr ⟨listedToo, unsecured⟩) sameGroup same
    exact ⟨summary, summaryToo, after, afterToo, offset, ran, ranToo,
      fun _ => ⟨outcome, paired, pairedToo⟩, moved⟩

/-- A store with one entity type to be secured, which the manager group may already use. -/
def solitary : Store :=
  let grant : Values := .ofList <|
    [("name", FieldValue.text "res.partner - company manager"), ("model_id", .ref 1),
      ("group_id", .ref 2)]
  let operations : List Store.Operation :=
    [.addEntityType "res.partner",
      .addGroup ⟨"multicompany_instead_of_multidatabase", "group_company_manager"⟩,
      .insertRecord .accessGrant grant]
  operations.foldl Store.Operation.apply {}

/-- The same store with another entity type, which goes first and is given up because its
rules cannot be written. -/
def crowded : Store :=
  let rule : Values := .ofList [("name", FieldValue.text "by hand"), ("model_id", .ref 4)]
  let operations : List Store.Operation :=
    [.addEntityType "account.move", .insertRecord .rule rule, .rejectWrites .rule 4]
  operations.foldl Store.Operation.apply solitary

theorem solitary_reachable : solitary.Reachable :=
  Store.Reachable.empty.foldl _

theorem crowded_reachable : crowded.Reachable :=
  solitary_reachable.foldl _

theorem solitary_sameAbout_crowded : solitary.SameAbout crowded 1 where
  records := by
    intro kind
    cases kind with
    | rule => exact RecordTable.matching_insert_of_not (by decide) (by decide)
    | accessGrant => rfl
  rejects := by
    intro kind
    cases kind with
    | rule => decide
    | accessGrant => decide

theorem all_independent_crowded :
    let policy : Policy := { classifier := .empty, config := {} }
    let partner : EntityType := ⟨1, "res.partner"⟩
    policy.groupIn solitary = policy.groupIn crowded ∧
      ∃ (summary summaryToo : Summary) (after afterToo : Session) (offset : RecordId),
        Session.run { host := { store := solitary } } (all policy) = (.ok summary, after) ∧
        Session.run { host := { store := crowded } } (all policy) = (.ok summaryToo, afterToo) ∧
        (∃ outcome, (partner, outcome) ∈ solitary.securedTypes.zip summary.outcomes ∧
          (partner, outcome.renamed (RecordId.moved 3 offset)) ∈
            crowded.securedTypes.zip summaryToo.outcomes) ∧
        ∀ kind, RecordTable.Moved 3 5 offset (after.host.store.recordsAbout kind 1)
          (afterToo.host.store.recordsAbout kind 1) := by
  intro policy partner
  have sameGroup : policy.groupIn solitary = policy.groupIn crowded := rfl
  obtain ⟨summary, summaryToo, after, afterToo, offset, ran, ranToo, outcome, moved⟩ :=
    @all_independent policy rfl solitary crowded solitary_reachable crowded_reachable partner
      (by decide) (by decide) sameGroup solitary_sameAbout_crowded
  exact ⟨sameGroup, summary, summaryToo, after, afterToo, offset, ran, ranToo,
    outcome (by decide), moved⟩

end Reconcile

end TenantGuard
