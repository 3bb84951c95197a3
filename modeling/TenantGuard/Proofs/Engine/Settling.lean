import TenantGuard.Proofs.Engine.Keeps
import TenantGuard.Proofs.Store.Matching

/-!
# Settling a desired record

What becomes of one desired record is a relation between the store before, the
outcome and the store after, and looking it up, creating, reducing and writing it
are the only ways to get there.  Settling changes what is found under its own key
and under no other.  What it leaves under its key is final: settled again, the
store stays as it is.
-/

namespace TenantGuard.DesiredRecord

/-- The records under a key have been reduced to the first.  They were one, or
they agreed. -/
structure Merges (desired : DesiredRecord) (before : Store) (kept : RecordId)
    (copies : List RecordId) (after : Store) : Prop where
  found : (before.matching desired).keys = kept :: copies
  agree : copies ≠ [] → desired.disagreements (before.matching desired) = []
  left : after = if copies = [] then before else before.unlink desired.kind copies

/-- What becomes of a desired record. -/
inductive Settles (desired : DesiredRecord) : Store → RecordOutcome → Store → Prop where
  | created {before after : Store} {id : RecordId}
      (missing : before.matching desired = ∅)
      (creates : before.create desired.kind desired.values = (.ok id, after)) :
      Settles desired before (.created id) after
  | conflicting {store : Store} {kept : RecordId} {copies : List RecordId}
      (found : (store.matching desired).keys = kept :: copies) (several : copies ≠ [])
      (differ : desired.disagreements (store.matching desired) ≠ []) :
      Settles desired store (.conflict (desired.conflictOf (store.matching desired))) store
  | unchanged {before after : Store} {kept : RecordId} {copies : List RecordId}
      (merges : desired.Merges before kept copies after)
      (same : desired.changesOf (before.matching desired) = ∅) :
      Settles desired before (.unchanged kept copies) after
  | updated {before between after : Store} {kept : RecordId} {copies : List RecordId}
      (merges : desired.Merges before kept copies between)
      (differ : desired.changesOf (before.matching desired) ≠ ∅)
      (writes : between.write desired.kind kept
        (desired.changesOf (before.matching desired)) = (.ok (), after)) :
      Settles desired before (.updated kept copies) after

/-- A failing call interrupts the work on a record before it changed anything,
between the removal of copies and the write, or when the record has settled and only
its external identifier is missing. -/
inductive Interrupted (desired : DesiredRecord) (before : Store) : Store → Prop where
  | untouched : Interrupted desired before before
  | merged {kept : RecordId} {copies : List RecordId} {after : Store}
      (merges : desired.Merges before kept copies after) : Interrupted desired before after
  | settled {outcome : RecordOutcome} {after : Store}
      (settles : desired.Settles before outcome after) : Interrupted desired before after

/-- The store refuses what has to be written for the desired record: the record itself where
nothing is found, or the fields of the first record found that differ. -/
inductive Refused (desired : DesiredRecord) (store : Store) : StoreError → Prop where
  | create {model : RecordId} (missing : store.matching desired = ∅)
      (rejected : store.rejectedModel? desired.kind desired.values = some model) :
      Refused desired store (.writeRejected desired.kind model)
  | write {kept : RecordId} {copies : List RecordId} {values : Values} {model : RecordId}
      (listed : (store.matching desired).keys = kept :: copies)
      (stored : (store.matching desired)[kept]? = some values)
      (agree : copies ≠ [] → desired.disagreements (store.matching desired) = [])
      (differ : desired.changesOf (store.matching desired) ≠ ∅)
      (rejected : store.rejectedModel? desired.kind values = some model) :
      Refused desired store (.writeRejected desired.kind model)

variable {desired : DesiredRecord} {before after : Store} {kept : RecordId}
  {copies : List RecordId}

theorem Refused.rejects {cause : StoreError} (refused : desired.Refused before cause) :
    before.rejectedWrites ≠ [] := by
  cases refused with
  | create missing rejected =>
      exact List.ne_nil_of_mem (Store.rejectedModel?_eq_some_iff.mp rejected).2
  | write listed stored agree differ rejected =>
      exact List.ne_nil_of_mem (Store.rejectedModel?_eq_some_iff.mp rejected).2

theorem Merges.sameSetting (merges : desired.Merges before kept copies after) :
    before.SameSetting after := by
  rw [merges.left]
  split
  · exact .refl _
  · exact (Call.unlink desired.kind copies).run_sameSetting before

/-- After a reduction the kept record, as it was, is the only one under the key. -/
theorem Merges.single (merges : desired.Merges before kept copies after) :
    ∃ values, (before.matching desired)[kept]? = some values ∧
      after.matching desired = RecordTable.single kept values := by
  have present : kept ∈ before.matching desired := by
    rw [← Std.ExtTreeMap.mem_keys, merges.found]
    exact List.mem_cons_self
  obtain ⟨values, stored⟩ := RecordTable.mem_iff_stored.mp present
  refine ⟨values, stored, ?_⟩
  rw [merges.left]
  split
  next alone =>
    have found := merges.found
    rw [alone] at found
    obtain ⟨only, equal⟩ := RecordTable.eq_single_of_keys found
    rw [equal, RecordTable.getElem?_single, if_pos rfl, Option.some.injEq] at stored
    rw [equal, stored]
  next => exact Store.matching_unlink_self merges.found stored

/-- The kept record is in the store after a reduction, as it was. -/
theorem Merges.present (merges : desired.Merges before kept copies after) :
    ∃ values, (before.matching desired)[kept]? = some values ∧
      (after.data.records desired.kind)[kept]? = some values := by
  obtain ⟨values, stored, single⟩ := merges.single
  have found : (after.matching desired)[kept]? = some values := by
    rw [single, RecordTable.getElem?_single, if_pos rfl]
  exact ⟨values, stored, (RecordTable.getElem?_matching_eq_some.mp found).1⟩

end TenantGuard.DesiredRecord

namespace TenantGuard.Reconcile

open DesiredRecord

/-- In whichever order the ids of a search are listed, sorting them gives the keys
of the records that were found. -/
theorem mergeSort_arranged {host : Host} (orderly : host.Orderly) (found : RecordTable) :
    (host.arrange found.keys).mergeSort (fun first second => first ≤ second) = found.keys := by
  have ascending : found.keys.Pairwise (fun first second => first ≤ second) :=
    found.ascending_keys.imp Int.le_of_lt
  have transitive : ∀ first second third : Int, decide (first ≤ second) →
      decide (second ≤ third) → decide (first ≤ third) := by
    simpa using fun _ _ _ => Int.le_trans
  have total : ∀ first second : Int, decide (first ≤ second) || decide (second ≤ first) := by
    simpa using Int.le_total
  have sorted : ((host.arrange found.keys).mergeSort fun first second => first ≤ second).Pairwise
      (fun first second => first ≤ second) := by
    simpa using List.pairwise_mergeSort transitive total (host.arrange found.keys)
  apply List.Perm.eq_of_pairwise _ sorted ascending
  · exact (List.mergeSort_perm _ _).trans (orderly found.keys)
  · intro first second _ _ le ge
    exact Int.le_antisymm le ge

/-- The fields that differ are written, if there are any. -/
theorem update_ensures {session : Session} (entity : String) {desired : DesiredRecord}
    {kept : RecordId} {current stored : Values} {removed : List RecordId}
    (present : (session.host.store.data.records desired.kind)[kept]? = some stored) :
    session.Ensures (update entity desired kept current removed)
      (fun outcome after =>
        (changes current desired.values = ∅ ∧ outcome = .unchanged kept removed ∧
          after.host.store = session.host.store) ∨
        (changes current desired.values ≠ ∅ ∧ outcome = .updated kept removed ∧
          session.host.store.write desired.kind kept (changes current desired.values) =
            (.ok (), after.host.store)))
      (fun error after => after.host.store = session.host.store ∧
        session.host.Obstructs (fun cause => changes current desired.values ≠ ∅ ∧
          ∃ model, session.host.store.rejectedModel? desired.kind stored = some model ∧
            cause = .writeRejected desired.kind model) error) := by
  rw [update]
  split
  next same =>
    apply Session.ensures_pure
    exact .inl ⟨Std.ExtTreeMap.isEmpty_iff.mp same, rfl, rfl⟩
  next differ =>
    rw [Std.ExtTreeMap.isEmpty_iff] at differ
    apply Session.ensures_bind
    apply Session.ensures_call
    · rintro ⟨⟩ after answered
      obtain ⟨⟨⟩, written, _⟩ := answered.stored
      apply Session.ensures_bind_record
      intro recorded sameHost
      apply Session.ensures_pure
      rw [sameHost]
      exact .inr ⟨differ, rfl, written⟩
    · intro _ after failed
      exact ⟨failed.store, failed.obstructs fun _ refused =>
        ⟨differ, Store.write_eq_error present refused⟩⟩

/-- Copies that agree are removed, and others are reported. -/
theorem deduplicate_ensures {session : Session} (entity : String) (desired : DesiredRecord)
    (kept : RecordId) (copies : List RecordId) (rows : List Values) :
    session.Ensures (deduplicate entity desired kept copies rows)
      (fun result after =>
        (result = none ∧ (copies ≠ [] → differingFields desired.fields rows = []) ∧
          after.host.store = if copies = [] then session.host.store
            else session.host.store.unlink desired.kind copies) ∨
        (copies ≠ [] ∧ differingFields desired.fields rows ≠ [] ∧
          after.host.store = session.host.store ∧
          result = some
            { kind := desired.kind, count := (kept :: copies).length,
              criteria := desired.criteria, fields := differingFields desired.fields rows,
              ids := kept :: copies }))
      (fun _ after => after.host.store = session.host.store ∧ session.host.Loses .unlink) := by
  rw [deduplicate]
  split
  next alone =>
    rw [List.isEmpty_iff] at alone
    apply Session.ensures_pure
    exact .inl ⟨rfl, fun several => absurd alone several, by rw [if_pos alone]⟩
  next several =>
    rw [List.isEmpty_iff] at several
    split
    next agree =>
      apply Session.ensures_bind
      apply Session.ensures_call
      · rintro ⟨⟩ after answered
        apply Session.ensures_bind_record
        intro recorded sameHost
        apply Session.ensures_pure
        rw [sameHost, if_neg several]
        exact .inl ⟨rfl, fun _ => agree, answered.store⟩
      · intro _ after failed
        exact ⟨failed.store, failed.loses rfl⟩
    next differ =>
      apply Session.ensures_bind_warn
      intro warned sameHost
      apply Session.ensures_bind_record
      intro recorded sameHostAgain
      apply Session.ensures_pure
      rw [sameHostAgain, sameHost]
      exact .inr ⟨several, differ, rfl, rfl⟩

/-- Bringing a desired record into the store settles it.  A failing call interrupts that:
one that is lost, or the write that the store refuses. -/
theorem record_ensures {session : Session} (orderly : session.host.Orderly) (entity : String)
    (desired : DesiredRecord) :
    session.Ensures (record entity desired)
      (fun outcome after => desired.Settles session.host.store outcome after.host.store)
      (fun error after => desired.Interrupted session.host.store after.host.store ∧
        session.host.Obstructs (desired.Refused session.host.store) error) := by
  rw [record]
  apply Session.ensures_bind
  apply Session.ensures_call
  · intro ids searched answered
    have unsearched : searched.host.store = session.host.store := answered.store
    have sorted : ids.mergeSort (fun first second => first ≤ second) =
        (session.host.store.matching desired).keys := by
      rw [answered.eq_arranged rfl]
      exact mergeSort_arranged orderly (session.host.store.matching desired)
    rw [sorted]
    split
    next missing =>
      rw [Std.ExtTreeMap.keys_eq_nil_iff] at missing
      apply Session.ensures_bind
      apply Session.ensures_call
      · intro id created answeredCreate
        obtain ⟨raw, creates, rfl⟩ := answeredCreate.stored
        rw [unsearched] at creates
        apply Session.ensures_bind_record
        intro recorded sameHost
        apply Session.ensures_pure
        rw [sameHost]
        exact .created missing creates
      · intro _ after failed
        rw [failed.store, unsearched]
        refine ⟨.untouched, answered.continues.obstructs (failed.obstructs ?_)⟩
        intro cause refused
        rw [unsearched] at refused
        obtain ⟨model, rejected, rfl⟩ := Store.create_eq_error refused
        exact .create missing rejected
    next kept copies found =>
      apply Session.ensures_bind
      apply Session.ensures_call
      · intro rows fetched answeredRead
        have reads := Store.read_matching session.host.store desired
        rw [found, ← unsearched] at reads
        have isRows : rows.map Values.normalized =
            desired.rows (session.host.store.matching desired) := by
          rw [answeredRead.eq_arranged reads, unsearched]
          exact List.map_map
        have unread : fetched.host.store = session.host.store :=
          answeredRead.store.trans unsearched
        have continues := answered.continues.trans answeredRead.continues
        rw [isRows]
        apply Session.ensures_bind
        apply ((deduplicate_ensures entity desired kept copies _).and_keeps
          (holds_deduplicate (Step.keeps_compositional Host.Continues.kept) entity desired kept
            copies _)).imp
        · rintro result reduced ⟨deduplicated, goesOn⟩
          rw [unread] at deduplicated
          rcases deduplicated with ⟨rfl, agree, left⟩ | ⟨several, differ, left, rfl⟩
          · have merges : desired.Merges session.host.store kept copies reduced.host.store :=
              ⟨found, agree, left⟩
            obtain ⟨values, stored, present⟩ := merges.present
            apply (update_ensures entity present).imp
            · rintro outcome after (⟨same, rfl, left⟩ | ⟨differ, rfl, writes⟩)
              · rw [left]
                exact .unchanged merges same
              · exact .updated merges differ writes
            · rintro error after ⟨left, obstructs⟩
              rw [left]
              refine ⟨.merged merges, (continues.trans goesOn).obstructs (obstructs.imp ?_)⟩
              rintro cause ⟨differ, model, rejected, rfl⟩
              rw [Store.rejectedModel?_congr merges.sameSetting.rejectedWrites] at rejected
              exact .write found stored agree differ rejected
          · apply Session.ensures_pure
            rw [left]
            rw [← found]
            exact .conflicting found several differ
        · rintro _ after ⟨⟨left, lost⟩, _⟩
          rw [left, unread]
          exact ⟨.untouched, (continues.loses lost).obstructs⟩
      · intro _ after failed
        rw [failed.store, unsearched]
        have reads := Store.read_matching session.host.store desired
        rw [found, ← unsearched] at reads
        exact ⟨.untouched, (answered.continues.loses (failed.loses reads)).obstructs⟩
  · intro _ after failed
    rw [failed.store]
    exact ⟨.untouched, (failed.loses rfl).obstructs⟩

end TenantGuard.Reconcile
