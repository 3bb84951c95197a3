import TenantGuard.Proofs.Engine.Accounts
import TenantGuard.Proofs.Engine.Convergence
import TenantGuard.Proofs.Engine.Securing
import TenantGuard.Proofs.Engine.Tally
import TenantGuard.Proofs.Record.Kindred

/-!
# Changing the configuration

Securing a store under one configuration and then under another one leaves the records
that the second configuration alone would have left.  Both ask for the same records by
the same keys, so whatever the first run created, reduced or left in conflict is found
again, and all that remains to be done is to write the fields that differ.

Under every key, what is left is a function of what was found, up to the id of a record
that is created; and the ids come out the same because as many records are created before
it.
-/

namespace TenantGuard

namespace DesiredRecord

variable {desired first second : DesiredRecord} {last lastNow : RecordId}
  {found left leftNow leftAlone : RecordTable} {outcome again alone : RecordOutcome}
  {values : Values}

/-- A text is written whatever else was there before. -/
theorem getElem?_adjusted_text {field text : String}
    (wanted : desired.values[field]? = some (.text text)) :
    (desired.adjusted values)[field]? = some (.text text) := by
  rw [getElem?_adjusted, wanted, Option.filter_some]
  split
  next => rfl
  next same =>
    rw [Option.none_or]
    simp only [ne_eq, decide_eq_true_eq, Classical.not_not] at same
    apply Values.getElem?_of_read _ _ _ (by simp)
    cases there : values.read field with
    | text => rw [there] at same; exact same
    | null | bool | int | ref | refs => rw [there] at same; cases same

/-- What was adjusted to another configuration before makes no difference. -/
theorem Kindred.adjusted_adjusted (kindred : first.Kindred second) (coherent : first.Coherent) :
    second.adjusted (first.adjusted values) = second.adjusted values := by
  apply Std.ExtTreeMap.ext_getElem?
  intro field
  rcases kindred.values field with same | ⟨_, _, _, wanted⟩
  · cases wanted : first.values[field]? with
    | none =>
        rw [getElem?_adjusted_of_none (same ▸ wanted), getElem?_adjusted_of_none wanted,
          getElem?_adjusted_of_none (same ▸ wanted)]
    | some value =>
        rw [getElem?_adjusted_of_read (same ▸ wanted) (coherent.read_adjusted wanted),
          getElem?_adjusted, getElem?_adjusted, same]
  · rw [getElem?_adjusted_text wanted, getElem?_adjusted_text wanted]

/-- What was created under another configuration is adjusted to the desired values. -/
theorem Kindred.adjusted_values (kindred : first.Kindred second) (coherent : first.Coherent) :
    second.adjusted first.values = second.values := by
  apply Std.ExtTreeMap.ext_getElem?
  intro field
  rcases kindred.values field with same | ⟨_, _, _, wanted⟩
  · cases wanted : first.values[field]? with
    | none => rw [getElem?_adjusted_of_none (same ▸ wanted), same]
    | some value =>
        rw [getElem?_adjusted_of_read (same ▸ wanted), same]
        rw [Values.read_of_getElem? _ _ wanted, coherent.normalized field value wanted]
  · rw [getElem?_adjusted_text wanted, wanted]

/-- The same records are found under both configurations. -/
theorem Kindred.matching (kindred : first.Kindred second) (store : Store) :
    store.matching first = store.matching second := by
  rw [Store.matching, Store.matching, kindred.kind, kindred.matched]

/-- Records differ under both configurations or under none. -/
theorem Kindred.disagreements_eq_nil (kindred : first.Kindred second) :
    first.disagreements found = [] ↔ second.disagreements found = [] := by
  rw [disagreements_eq_nil_iff, disagreements_eq_nil_iff]
  simp only [kindred.mem_fields]

/-- Under a key, what two configurations leave one after the other is what the second
leaves alone, provided that they create the same record.  The second one only writes. -/
theorem Leaves.reconfigured (kindred : first.Kindred second) (coherent : first.Coherent)
    (leaves : first.Leaves last found outcome left)
    (leavesAgain : second.Leaves lastNow left again leftNow)
    (leavesAlone : second.Leaves last found alone leftAlone)
    (sameIds : ∀ id, outcome = .created id ↔ alone = .created id) :
    again.isCreated = false ∧ again.removed = [] ∧ leftNow = leftAlone := by
  have ofSingle : ∀ {id : RecordId} {values : Values}, left = .single id values →
      again.isCreated = false ∧ again.removed = [] ∧
        leftNow = .single id (second.adjusted values) := by
    rintro id values rfl
    obtain ⟨rfl, isLeft⟩ := leavesAgain.of_agreeing RecordTable.keys_single
      (by rw [RecordTable.getElem?_single, if_pos rfl]) fun several => absurd rfl several
    exact ⟨isCreated_gathered, removed_gathered, isLeft⟩
  rcases first.found_cases found with
    rfl | ⟨several, differ⟩ | ⟨kept, copies, values, listed, stored, agree⟩
  · obtain ⟨id, created, isLeft⟩ := leaves.of_missing
    obtain ⟨other, createdToo, isLeftAlone⟩ := leavesAlone.of_missing
    rw [(sameIds id).mp created, RecordOutcome.created.injEq] at createdToo
    rw [isLeftAlone, ← createdToo, ← kindred.adjusted_values coherent]
    exact ofSingle isLeft
  · obtain ⟨_, rfl⟩ := leaves.of_conflicting several differ
    have differToo : second.disagreements left ≠ [] := by
      rw [ne_eq, ← kindred.disagreements_eq_nil]
      exact differ
    obtain ⟨_, isLeftAlone⟩ := leavesAlone.of_conflicting several differToo
    obtain ⟨rfl, isLeftNow⟩ := leavesAgain.of_conflicting several differToo
    exact ⟨rfl, rfl, isLeftNow.trans isLeftAlone.symm⟩
  · obtain ⟨_, isLeft⟩ := leaves.of_agreeing listed stored agree
    obtain ⟨_, isLeftAlone⟩ := leavesAlone.of_agreeing listed stored fun notAlone =>
      kindred.disagreements_eq_nil.mp (agree notAlone)
    rw [isLeftAlone, ← kindred.adjusted_adjusted coherent]
    exact ofSingle isLeft

end DesiredRecord

namespace Accounted

variable {first again alone : List SettledRecord} {before between after other : Store}
  {final finalAlone : RecordId}

/-- Two lists of the same desired records, under one configuration each, create the same
records in the same store. -/
theorem same_ids
    (kindred : List.Forall₂ DesiredRecord.Kindred (first.map (·.1)) (alone.map (·.1)))
    (accounted : Accounted first before between) (accountedAlone : Accounted alone before other)
    (numbered : Numbered before.lastId (first.map (·.2)) final)
    (numberedAlone : Numbered before.lastId (alone.map (·.2)) finalAlone) :
    List.Forall₂ (fun entry other => entry.1.Kindred other.1 ∧
      ∀ id, entry.2 = .created id ↔ other.2 = .created id) first alone := by
  rw [List.forall₂_map_left_iff, List.forall₂_map_right_iff] at kindred
  have sameIds := accounted.created_alike (Int.add_zero _).symm
    (kindred.imp fun _ _ kin => kin.matching before) accountedAlone numbered numberedAlone
  simp only [Int.add_zero] at sameIds
  exact kindred.mp (fun _ _ => And.intro) sameIds

/-- What two configurations leave one after the other is what the second leaves alone. -/
theorem reconfigured
    (kindred : List.Forall₂ DesiredRecord.Kindred (first.map (·.1)) (alone.map (·.1)))
    (sameDesired : again.map (·.1) = alone.map (·.1))
    (coherent : ∀ entry ∈ first, entry.1.Coherent)
    (accounted : Accounted first before between) (accountedAgain : Accounted again between after)
    (accountedAlone : Accounted alone before other)
    (numbered : Numbered before.lastId (first.map (·.2)) final)
    (numberedAlone : Numbered before.lastId (alone.map (·.2)) finalAlone) :
    (∀ entry ∈ again, entry.2.isCreated = false ∧ entry.2.removed = []) ∧
      ∀ kind, after.data.records kind = other.data.records kind := by
  have pairs := accounted.same_ids kindred accountedAlone numbered numberedAlone
  rw [List.forall₂_iff_zip] at pairs
  have wanted : ∀ record, record ∈ again.map (·.1) ↔ record ∈ alone.map (·.1) := by
    intro record
    rw [sameDesired]
  have onlyWrites : ∀ entry ∈ again, entry.2.isCreated = false ∧ entry.2.removed = [] ∧
      after.matching entry.1 = other.matching entry.1 := by
    intro entry listed
    obtain ⟨partner, listedAlone, same⟩ :=
      List.mem_map.mp ((wanted entry.1).mp (List.mem_map_of_mem listed))
    rw [← List.map_snd_zip (Nat.le_of_eq pairs.1.symm)] at listedAlone
    obtain ⟨⟨earlier, _⟩, paired, rfl⟩ := List.mem_map.mp listedAlone
    obtain ⟨kin, sameIds⟩ := pairs.2 paired
    obtain ⟨listedFirst, listedToo⟩ := List.of_mem_zip paired
    have leaves := accounted.leaves earlier listedFirst
    have leavesAgain := accountedAgain.leaves entry listed
    have leavesAlone := accountedAlone.leaves _ listedToo
    rw [kin.matching, kin.matching] at leaves
    rw [← same] at leavesAgain ⊢
    exact leaves.reconfigured kin (coherent earlier listedFirst) leavesAgain leavesAlone sameIds
  refine ⟨fun entry listed => ⟨(onlyWrites entry listed).1, (onlyWrites entry listed).2.1⟩, ?_⟩
  intro kind
  apply Std.ExtTreeMap.ext_getElem?
  intro id
  apply Option.ext
  intro values
  rcases SettledRecord.under_key_or_none again kind values with
    ⟨entry, listed, rfl, matched⟩ | unlike
  · have found : ∀ store : Store, (store.data.records entry.1.kind)[id]? = some values ↔
        (store.matching entry.1)[id]? = some values := by
      intro store
      rw [Store.matching, RecordTable.getElem?_matching_eq_some]
      exact (and_iff_left matched).symm
    rw [found, found, (onlyWrites entry listed).2.2]
  · have unlikeAlone : ∀ entry ∈ alone, entry.1.kind = kind → ¬ entry.1.matched values := by
      intro entry listed
      obtain ⟨entryAgain, listedAgain, same⟩ :=
        List.mem_map.mp ((wanted entry.1).mpr (List.mem_map_of_mem listed))
      rw [← same]
      exact unlike entryAgain listedAgain
    have unlikeFirst : ∀ entry ∈ first, entry.1.kind = kind → ¬ entry.1.matched values := by
      intro entry listed
      rw [← List.map_fst_zip (Nat.le_of_eq pairs.1)] at listed
      obtain ⟨⟨_, partner⟩, paired, rfl⟩ := List.mem_map.mp listed
      have kin := (pairs.2 paired).1
      rw [kin.kind, kin.matched]
      exact unlikeAlone partner (List.of_mem_zip paired).2
    rw [accountedAgain.rest kind id values unlike, accounted.rest kind id values unlikeFirst,
      accountedAlone.rest kind id values unlikeAlone]

end Accounted

namespace Secure

variable {policy : Policy} {before : Host} {summary : Summary} {after : Store}

/-- On a host that nothing hinders, a pass brings all desired records into the store, and
the store and the summary count what it does. -/
theorem Passes.accounted (passes : Passes policy before summary after)
    (unhindered : ¬ before.Hindered) (formed : before.store.WellFormed) :
    ∃ list : List SettledRecord, list.map (·.1) = policy.allDesired before.store ∧
      Summary.Adds {} (list.map (·.2)) summary ∧ Accounted list before.store after ∧
      Tallied before.store (list.map (·.2)) after := by
  obtain ⟨list, _, complete, reported, accounted, tallied⟩ := passes.of_cumulative
    ((Reconcile.cumulative_accounted policy).and (Reconcile.cumulative_tallied policy))
    (fun same => ⟨.of_sameRecords same.toSameRecords, .nil same.toSameRecords⟩) (.inr unhindered)
    formed
  obtain ⟨_, _, _, _, pass, _⟩ := passes.steps
  have adds := pass.adds
  rw [Reconcile.outcomes_of_reports reported] at adds
  exact ⟨list, complete unhindered, adds, accounted, tallied⟩

end Secure

/-- Two configurations that name the same manager group ask for the same records. -/
theorem Policy.kindred_allDesired {first second : Policy}
    (sameClassifier : first.classifier = second.classifier)
    (sameGroup : first.config.managerReference? = second.config.managerReference?)
    (store : Store) :
    List.Forall₂ DesiredRecord.Kindred (first.allDesired store) (second.allDesired store) := by
  rw [allDesired, allDesired, groupIn, groupIn, sameGroup]
  apply List.rel_flatMap (R := Eq) (List.forall₂_same.mpr fun _ _ => rfl)
  rintro entityType _ rfl
  exact kindred_desiredRecords sameClassifier entityType _

/-- A run that only writes has created and unlinked nothing. -/
theorem Tallied.only_writes {before after : Store} {outcomes : List RecordOutcome}
    (tallied : Tallied before outcomes after)
    (onlyWrites : ∀ outcome ∈ outcomes, outcome.isCreated = false ∧ outcome.removed = []) :
    after.counts.creates = before.counts.creates ∧
      after.counts.unlinks = before.counts.unlinks := by
  rw [tallied.creates, tallied.unlinks]
  constructor
  · apply Nat.add_eq_left.mpr
    rw [List.countP_eq_zero]
    intro outcome listed
    rw [(onlyWrites outcome listed).1]
    exact Bool.false_ne_true
  · apply Nat.add_eq_left.mpr
    rw [List.countP_eq_zero]
    intro outcome listed
    rw [RecordOutcome.isReduced, (onlyWrites outcome listed).2]
    exact Bool.false_ne_true

theorem Summary.Adds.only_writes {outcomes : List RecordOutcome} {summary : Summary}
    (adds : Summary.Adds {} outcomes summary)
    (onlyWrites : ∀ outcome ∈ outcomes, outcome.isCreated = false ∧ outcome.removed = []) :
    summary.created = 0 ∧ summary.duplicatesRemoved = 0 := by
  rw [adds.created, adds.duplicatesRemoved]
  constructor
  · apply Nat.add_eq_left.mpr
    rw [List.countP_eq_zero]
    intro outcome listed
    rw [(onlyWrites outcome listed).1]
    exact Bool.false_ne_true
  · apply Nat.add_eq_left.mpr
    rw [List.length_eq_zero_iff, List.flatMap_eq_nil_iff]
    intro outcome listed
    exact (onlyWrites outcome listed).2

/-- Securing a store under one configuration and then under another one with the same
manager group leaves the records that the second alone would have left, under the same
ids and with the same values.  The second of the two runs creates and removes nothing. -/
theorem secure_reconfigured (classifier : Classifier) {first second : Config}
    (sameGroup : first.managerReference? = second.managerReference?) {store : Store}
    (reached : store.Reachable) (accepting : store.rejectedWrites = []) :
    let start : Session := { host := { store } }
    let between := (start.act (secure ⟨classifier, first⟩)).2
    let again := between.act (secure ⟨classifier, second⟩)
    let alone := (start.act (secure ⟨classifier, second⟩)).2
    (∀ kind, again.2.host.store.data.records kind = alone.host.store.data.records kind) ∧
      again.2.host.store.counts.creates = between.host.store.counts.creates ∧
      again.2.host.store.counts.unlinks = between.host.store.counts.unlinks ∧
      ∃ summary, again.1.reconcile = some summary ∧ summary.created = 0 ∧
        summary.duplicatesRemoved = 0 := by
  intro start between again alone
  have formed : start.host.store.WellFormed := reached.wellFormed
  have orderly : start.host.Orderly := Host.orderly_of_default store
  have unhindered : ¬ start.host.Hindered := Host.unhindered_of_accepting accepting
  have continues : start.host.Continues between.host :=
    keeps_secure Host.Continues.kept ⟨classifier, first⟩ start
  have unhinderedAgain : ¬ between.host.Hindered := fun hindered =>
    unhindered (continues.hindered hindered)
  have runs : Secure.Runs ⟨classifier, first⟩ start.host _ between.host.store :=
    secure_yields orderly _
  have runsAgain : Secure.Runs ⟨classifier, second⟩ between.host again.1 again.2.host.store :=
    secure_yields (continues.orderly orderly) _
  have runsAlone : Secure.Runs ⟨classifier, second⟩ start.host _ alone.host.store :=
    secure_yields orderly _
  obtain ⟨_, _, passes⟩ := runs.passes unhindered
  obtain ⟨summary, reported, passesAgain⟩ := runsAgain.passes unhinderedAgain
  obtain ⟨_, _, passesAlone⟩ := runsAlone.passes unhindered
  obtain ⟨list, desired, _, accounted, tallied⟩ := passes.accounted unhindered formed
  obtain ⟨listAgain, desiredAgain, adds, accountedAgain, talliedAgain⟩ :=
    passesAgain.accounted unhinderedAgain (continues.wellFormed formed)
  obtain ⟨listAlone, desiredAlone, _, accountedAlone, talliedAlone⟩ :=
    passesAlone.accounted unhindered formed
  have kindred := @Policy.kindred_allDesired ⟨classifier, first⟩ ⟨classifier, second⟩ rfl
    sameGroup start.host.store
  have coherent : ∀ entry ∈ list, entry.1.Coherent := by
    intro entry listed
    apply Policy.coherent_of_mem_allDesired
    rw [← desired]
    exact List.mem_map_of_mem listed
  rw [← desired, ← desiredAlone] at kindred
  rw [Policy.allDesired_congr continues.setting, ← desiredAlone] at desiredAgain
  obtain ⟨onlyWrites, same⟩ := accounted.reconfigured kindred desiredAgain coherent
    accountedAgain accountedAlone tallied.numbered talliedAlone.numbered
  have outcomes : ∀ outcome ∈ listAgain.map (·.2),
      outcome.isCreated = false ∧ outcome.removed = [] := by
    rw [List.forall_mem_map]
    exact onlyWrites
  obtain ⟨creates, unlinks⟩ := talliedAgain.only_writes outcomes
  exact ⟨same, creates, unlinks, summary, reported, adds.only_writes outcomes⟩

/-- The same manager group beside another tenant attribute. -/
theorem secure_reconfigured_disputed :
    let second : Config := { tenancy := { defaultField := "owner_id" } }
    let start : Session := { host := { store := Reconcile.disputed } }
    let between := (start.act (secure ⟨.empty, {}⟩)).2
    let again := between.act (secure ⟨.empty, second⟩)
    let alone := (start.act (secure ⟨.empty, second⟩)).2
    ({} : Config).managerReference? = second.managerReference? ∧
      Reconcile.disputed.rejectedWrites = [] ∧
      (∀ kind, again.2.host.store.data.records kind = alone.host.store.data.records kind) ∧
      again.2.host.store.counts.creates = between.host.store.counts.creates ∧
      again.2.host.store.counts.unlinks = between.host.store.counts.unlinks ∧
      ∃ summary, again.1.reconcile = some summary ∧ summary.created = 0 ∧
        summary.duplicatesRemoved = 0 :=
  have sameGroup : ({} : Config).managerReference? =
      ({ tenancy := { defaultField := "owner_id" } } : Config).managerReference? :=
    congrArg Reference.ofText? rfl
  ⟨sameGroup, rfl, secure_reconfigured .empty sameGroup Reconcile.disputed_reachable rfl⟩

end TenantGuard
