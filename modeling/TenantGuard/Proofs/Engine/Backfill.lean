import TenantGuard.Proofs.Engine.Savepoints

/-!
# Filling tables

The backfill takes the tables that carry the tenant column one by one.  A table is
filled, or it is left as it was and the report says so; where none was refused, no null
is left in the tables it went through.  Records, external identifiers and the savepoints
of others are not touched, however it goes.
-/

namespace TenantGuard

/-- What became of one table. -/
inductive TableOutcome where
  | filled (rows : Nat)
  | refused (detail : String)
  | skipped

/-- Enter what became of a table. -/
def BackfillReport.enter (report : BackfillReport) (name : String) :
    TableOutcome → BackfillReport
  | .filled rows => { report with tables := report.tables ++ [⟨name, rows⟩] }
  | .refused detail => { report with failed := report.failed ++ [⟨name, detail⟩] }
  | .skipped => { report with skipped := report.skipped ++ [name] }

/-- The rows that were filled in a table. -/
def TableOutcome.backfill? (name : String) : TableOutcome → Option TableBackfill
  | .filled rows => some ⟨name, rows⟩
  | .refused _ | .skipped => none

/-- The failure that a table is reported with. -/
def TableOutcome.failure? (name : String) : TableOutcome → Option TableFailure
  | .refused detail => some ⟨name, detail⟩
  | .filled _ | .skipped => none

/-- The name of a table that was skipped. -/
def TableOutcome.skipped? (name : String) : TableOutcome → Option String
  | .skipped => some name
  | .filled _ | .refused _ => none

/-- A report lists the tables by what became of them, in order. -/
theorem BackfillReport.foldl_enter (report : BackfillReport)
    (entries : List (String × TableOutcome)) :
    entries.foldl (fun reached entry => reached.enter entry.1 entry.2) report =
      { report with
        tables := report.tables ++ entries.filterMap fun entry => entry.2.backfill? entry.1
        skipped := report.skipped ++ entries.filterMap fun entry => entry.2.skipped? entry.1
        failed := report.failed ++ entries.filterMap fun entry => entry.2.failure? entry.1 } := by
  induction entries generalizing report with
  | nil => simp
  | cons entry entries ih =>
      rw [List.foldl_cons, ih]
      obtain ⟨name, outcome⟩ := entry
      cases outcome with
      | filled | refused | skipped =>
          simp [enter, TableOutcome.backfill?, TableOutcome.skipped?, TableOutcome.failure?]

namespace Store

variable {store : Store} {table column : String}

/-- Putting a column into a table touches no other column. -/
theorem column?_addTable (rows : Column) (other otherColumn : String) :
    (store.addTable table column rows).column? other otherColumn =
      if table = other ∧ column = otherColumn then some rows
      else store.column? other otherColumn := by
  rw [column?, addTable, Std.ExtTreeMap.getElem?_insert]
  split
  next same =>
    rw [Std.LawfulEqOrd.eq_of_compare same, Option.bind_some, Std.ExtTreeMap.getElem?_insert]
    split
    next sameColumn => simp [Std.LawfulEqOrd.eq_of_compare sameColumn]
    next unlike =>
      have different : column ≠ otherColumn := fun same => unlike (by simp [same])
      rw [if_neg (fun both => different both.2), column?]
      cases store.data.tables[other]? with
      | none => simp
      | some columns => rfl
  next unlike =>
    have different : table ≠ other := fun same => unlike (by simp [same])
    rw [if_neg (fun both => different both.1), column?]

theorem sameEntries_addTable (rows : Column) :
    store.SameEntries (store.addTable table column rows) := by
  refine ⟨⟨?_, rfl, rfl⟩, rfl⟩
  intro kind
  cases kind with
  | rule | accessGrant => rfl

/-- The tables that carry a column are those that it can be looked up in. -/
theorem mem_tablesWithColumn :
    table ∈ store.tablesWithColumn column ↔ (store.column? table column).isSome := by
  rw [tablesWithColumn, Std.ExtTreeMap.mem_keys, Std.ExtTreeMap.mem_iff_isSome_getElem?,
    Std.ExtTreeMap.getElem?_filter', column?]
  cases store.data.tables[table]? with
  | none => simp
  | some columns => simp [Option.isSome_filter]

theorem fillNullColumn_eq_ok {value : Int} {filled : Nat} {after : Store}
    (fills : store.fillNullColumn table column value = (.ok filled, after)) :
    table ∉ store.rejectedTables ∧ ∃ rows, store.column? table column = some rows ∧
      filled = rows.countP Option.isNone ∧
      after = store.addTable table column (rows.map fun row => some (row.getD value)) := by
  rw [fillNullColumn] at fills
  split at fills
  · cases fills
  next accepted =>
    split at fills
    · cases fills
    next rows carried =>
      cases fills
      exact ⟨accepted, rows, carried, rfl, rfl⟩

/-- Why a column is not filled: the table refuses, or it does not have the column. -/
inductive Unfillable (store : Store) (table column : String) : StoreError → Prop where
  | rejected (rejected : table ∈ store.rejectedTables) :
      Unfillable store table column (.tableRejected table)
  | missing (missing : store.column? table column = none) :
      Unfillable store table column (.columnMissing table column)

theorem fillNullColumn_eq_error {value : Int} {cause : StoreError}
    (failed : (store.fillNullColumn table column value).1 = .error cause) :
    store.Unfillable table column cause := by
  rw [fillNullColumn] at failed
  split at failed
  next rejected =>
    cases failed
    exact .rejected rejected
  · split at failed
    next missing =>
      cases failed
      exact .missing missing
    · cases failed

end Store

namespace Backfill

open Secure (backfillSavepoint)

theorem tableSavepoint_ne : tableSavepoint ≠ backfillSavepoint := by
  decide

/-- What becomes of one table: its column is filled, or nothing happens. -/
inductive Fills (settings : BackfillSettings) (name : String) (before : Store) :
    TableOutcome → Store → Prop where
  | filled {rows : Column} (carried : before.column? name settings.column = some rows)
      (plain : Sql.isPlain name) (accepted : name ∉ before.rejectedTables) :
      Fills settings name before (.filled (rows.countP Option.isNone))
        (before.addTable name settings.column
          (rows.map fun row => some (row.getD settings.defaultTenant)))
  | refused (detail : String) (plain : Sql.isPlain name) :
      Fills settings name before (.refused detail) before
  | skipped (unusual : ¬ Sql.isPlain name) : Fills settings name before .skipped before

/-- A run of the backfill that was not stopped. -/
structure Run (settings : BackfillSettings) (before : Store) (report : BackfillReport)
    (after : Store) : Prop where
  steps : ∃ entries : List (String × TableOutcome),
    report = entries.foldl (fun reached entry => reached.enter entry.1 entry.2)
      { column := settings.column, tenant := settings.defaultTenant } ∧
    Chain (fun name before entry after => entry.1 = name ∧ Fills settings name before entry.2 after)
      (before.tablesWithColumn settings.column) before entries after

section Frames

variable {settings : BackfillSettings} {name : String} {before after : Store}
  {outcome : TableOutcome}

theorem Fills.sameEntries (fills : Fills settings name before outcome after) :
    before.SameEntries after := by
  cases fills with
  | filled => exact Store.sameEntries_addTable _
  | refused | skipped => exact .refl _

theorem Fills.savepoints (fills : Fills settings name before outcome after) :
    after.savepoints = before.savepoints := by
  cases fills with
  | filled | refused | skipped => rfl

/-- No null is left in the column of a table, if it carries one. -/
def Complete (settings : BackfillSettings) (name : String) (store : Store) : Prop :=
  ∀ rows, store.column? name settings.column = some rows → none ∉ rows

/-- A table that was neither refused nor skipped is complete. -/
theorem Fills.complete_self (fills : Fills settings name before outcome after)
    (plain : Sql.isPlain name) (accepted : outcome.failure? name = none) :
    Complete settings name after := by
  cases fills with
  | filled carried =>
      intro rows stored
      rw [Store.column?_addTable, if_pos ⟨rfl, rfl⟩] at stored
      cases stored
      simp
  | refused detail => cases accepted
  | skipped unusual => exact absurd plain unusual

/-- A table that is complete stays so while others, or it itself, are filled. -/
theorem Fills.complete (fills : Fills settings name before outcome after) {other : String}
    (complete : Complete settings other before) : Complete settings other after := by
  cases fills with
  | filled carried =>
      intro rows stored
      rw [Store.column?_addTable] at stored
      split at stored
      · cases stored
        simp
      · exact complete rows stored
  | refused | skipped => exact complete

/-- Filling a table adds the column to no other. -/
theorem Fills.carried (fills : Fills settings name before outcome after) {other : String}
    (carries : (after.column? other settings.column).isSome) :
    (before.column? other settings.column).isSome := by
  cases fills with
  | filled carried =>
      rw [Store.column?_addTable] at carries
      split at carries
      next same => simp [← same.1, carried]
      next => exact carries
  | refused | skipped => exact carries

/-- Once a list of tables was gone through and none was refused, all of them are
complete. -/
theorem complete_of_chain {names : List String} {entries : List (String × TableOutcome)}
    (chain : Chain (fun name before entry after =>
      entry.1 = name ∧ Fills settings name before entry.2 after) names before entries after)
    (accepted : ∀ entry ∈ entries, entry.2.failure? entry.1 = none) :
    ∀ name ∈ names, Sql.isPlain name → Complete settings name after := by
  induction chain with
  | nil => simp
  | cons first rest ih =>
      rw [List.forall_mem_cons] at accepted ⊢
      obtain ⟨rfl, fills⟩ := first
      refine ⟨?_, ih accepted.2⟩
      intro plain
      exact rest.invariant (Complete settings _) (fun link => link.2.complete)
        (fills.complete_self plain accepted.1)

end Frames

/-- Why a table is reported with a failure: the call that fills it was lost, or the store
refused it. -/
def Explains (settings : BackfillSettings) (name : String) (host : Host) (detail : String) : Prop :=
  ∃ error, detail = table.detail error ∧
    host.Obstructs (host.store.Unfillable name settings.column) error

/-- Filling a table fills it or does nothing, and leaves a savepoint open only if it
stops.  It stops only if a call is lost. -/
theorem table_ensures {session : Session} (settings : BackfillSettings)
    (report : BackfillReport) (name : String) :
    session.Ensures (table settings report name)
      (fun result after => ∃ outcome, result = report.enter name outcome ∧
        Fills settings name session.host.store outcome after.host.store ∧
        ∀ detail, outcome = .refused detail → Explains settings name session.host detail)
      (fun _ after => (∃ method, session.host.Loses method) ∧
        session.host.store.SameEntries after.host.store ∧
        session.host.store.Atop backfillSavepoint after.host.store) := by
  rw [table]
  split
  next plain =>
    apply Session.ensures_bind
    apply Session.ensures_call
    · rintro ⟨⟩ opened answered
      have saved : opened.host.store = session.host.store.savepoint tableSavepoint :=
        answered.store
      have sameOpened : session.host.store.SameEntries opened.host.store := by
        rw [saved]
        exact .opened _ _
      have top : opened.host.store.savepoints =
          ⟨tableSavepoint, session.host.store.data⟩ :: session.host.store.savepoints := by
        rw [saved]
        rfl
      have found := Store.popTo?_head tableSavepoint session.host.store.data
        session.host.store.savepoints
      apply Session.ensures_bind
      apply Session.ensures_attempt
      apply Session.ensures_call
      · intro count filled answeredFill
        obtain ⟨raw, fills, rfl⟩ := answeredFill.stored
        obtain ⟨accepted, rows, carried, counted, left⟩ := Store.fillNullColumn_eq_ok fills
        rw [saved] at accepted carried left
        have stillTop : filled.host.store.savepoints =
            ⟨tableSavepoint, session.host.store.data⟩ :: session.host.store.savepoints := by
          rw [left]
          rfl
        rw [← stillTop] at found
        apply Session.ensures_bind
        apply Session.ensures_call
        · rintro ⟨⟩ released answeredRelease
          have leftReleased := answeredRelease.store
          rw [Call.run_releaseSavepoint found, left] at leftReleased
          apply Session.ensures_pure
          refine ⟨.filled (rows.countP Option.isNone), ?_, ?_, ?_⟩
          · rw [← counted]
            rfl
          · rw [leftReleased]
            exact .filled carried plain accepted
          · intro _ refused
            cases refused
        · intro _ after failed
          have lost := failed.loses (congrArg Prod.fst (Call.run_releaseSavepoint found))
          rw [failed.store, left]
          exact ⟨⟨_, (answered.continues.trans answeredFill.continues).loses lost⟩,
            .trans (.opened _ _) (Store.sameEntries_addTable _), .of_top tableSavepoint_ne rfl⟩
      · intro error refused failed
        have left : refused.host.store = session.host.store.savepoint tableSavepoint :=
          failed.store.trans saved
        have stillTop : refused.host.store.savepoints =
            ⟨tableSavepoint, session.host.store.data⟩ :: session.host.store.savepoints := by
          rw [left]
          rfl
        rw [← stillTop] at found
        apply Session.ensures_bind
        apply Session.ensures_call
        · rintro ⟨⟩ restored answeredRollback
          have leftRestored := answeredRollback.store
          rw [Call.run_rollbackToSavepoint found, left] at leftRestored
          apply Session.ensures_bind_warn
          intro warned sameHost
          apply Session.ensures_pure
          refine ⟨.refused (table.detail error), rfl, ?_, ?_⟩
          · rw [sameHost, leftRestored]
            exact .refused _ plain
          · rintro _ ⟨⟩
            refine ⟨error, rfl, answered.continues.obstructs (failed.obstructs ?_)⟩
            intro cause refusal
            rw [saved] at refusal
            cases Store.fillNullColumn_eq_error refusal with
            | rejected rejected => exact .rejected rejected
            | missing missing => exact .missing missing
        · intro _ after failedRollback
          have lost :=
            failedRollback.loses (congrArg Prod.fst (Call.run_rollbackToSavepoint found))
          rw [failedRollback.store, left]
          exact ⟨⟨_, (answered.continues.trans failed.continues).loses lost⟩, .opened _ _,
            .of_top tableSavepoint_ne rfl⟩
    · intro _ after failed
      have lost := failed.loses rfl
      rw [failed.store]
      exact ⟨⟨_, lost⟩, .refl _, .of_eq rfl⟩
  next unusual =>
    apply Session.ensures_bind_warn
    intro warned sameHost
    apply Session.ensures_pure
    refine ⟨.skipped, rfl, ?_, ?_⟩
    · rw [sameHost]
      exact .skipped unusual
    · intro _ refused
      cases refused

/-- Why the backfill stops: a call was lost, or the column cannot stand in a statement. -/
inductive Blocked (settings : BackfillSettings) (host : Host) : EngineError → Prop where
  | lost {error : EngineError} {method : Method} (lost : host.Loses method) :
      Blocked settings host error
  | unusual (unusual : ¬ Sql.isPlain settings.column) :
      Blocked settings host (.invalidIdentifier settings.column)

theorem Blocked.of_continues {settings : BackfillSettings} {before after : Host}
    {error : EngineError} (blocked : Blocked settings after error)
    (continues : before.Continues after) : Blocked settings before error := by
  cases blocked with
  | lost lost => exact .lost (continues.loses lost)
  | unusual unusual => exact .unusual unusual

/-- What is ensured of each table that carries the column is ensured of all of them, one after
the other. -/
theorem all_ensures_chain {session : Session} {settings : BackfillSettings}
    (plain : Sql.isPlain settings.column)
    (link : String → Store → String × TableOutcome → Store → Prop)
    (steady : Session → Prop) (stops : EngineError → Session → Prop)
    (each : ∀ name ∈ session.host.store.tablesWithColumn settings.column,
      ∀ (report : BackfillReport) (reached : Session), steady reached →
        reached.Ensures (table settings report name)
          (fun result after => ∃ entry : String × TableOutcome,
            result = report.enter entry.1 entry.2 ∧
            link name reached.host.store entry after.host.store ∧ steady after)
          stops)
    (started : ∀ listed : Session, listed.host.store = session.host.store →
      session.host.Continues listed.host → steady listed)
    (unlisted : ∀ error after, (∃ method, session.host.Loses method) →
      after.host.store = session.host.store → stops error after) :
    session.Ensures (all settings)
      (fun report after => ∃ entries : List (String × TableOutcome),
        report = entries.foldl (fun reached entry => reached.enter entry.1 entry.2)
          { column := settings.column, tenant := settings.defaultTenant } ∧
        Chain link (session.host.store.tablesWithColumn settings.column) session.host.store
          entries after.host.store ∧
        steady after)
      stops := by
  rw [all, if_pos plain]
  apply Session.ensures_bind
  apply Session.ensures_call
  · intro tables listed answered
    have unchanged : listed.host.store = session.host.store := answered.store
    have isListed : tables = session.host.store.tablesWithColumn settings.column :=
      answered.eq_arranged rfl
    rw [isListed]
    apply (Session.ensures_foldlM (fun reached => reached.host.store)
      (fun reached (entry : String × TableOutcome) => reached.enter entry.1 entry.2) link steady
      stops each (started listed unchanged answered.continues)).imp
    · rintro report after ⟨entries, told, chain, goesOn⟩
      rw [unchanged] at chain
      exact ⟨entries, told, chain, goesOn⟩
    · intro _ after stopped
      exact stopped
  · intro error after failed
    exact unlisted error after ⟨_, failed.loses rfl⟩ failed.store

/-- The tables that carry the column are filled one after the other, if the column can stand
in a statement. -/
theorem all_ensures {session : Session} (settings : BackfillSettings) :
    session.Ensures (all settings)
      (fun report after => Sql.isPlain settings.column ∧
        Run settings session.host.store report after.host.store)
      (fun error after => Blocked settings session.host error ∧
        session.host.store.SameEntries after.host.store ∧
        session.host.store.Atop backfillSavepoint after.host.store) := by
  by_cases plain : Sql.isPlain settings.column
  · apply (all_ensures_chain plain
      (fun name before entry after => entry.1 = name ∧ Fills settings name before entry.2 after)
      (fun reached => session.host.Continues reached.host ∧
        session.host.store.SameEntries reached.host.store ∧
        reached.host.store.savepoints = session.host.store.savepoints)
      (fun error after => Blocked settings session.host error ∧
        session.host.store.SameEntries after.host.store ∧
        session.host.store.Atop backfillSavepoint after.host.store) _ _ _).imp
    · rintro report after ⟨entries, told, chain, _⟩
      exact ⟨plain, entries, told, chain⟩
    · intro _ after stopped
      exact stopped
    · rintro name _ report reached ⟨goesOn, same, sameSavepoints⟩
      apply ((table_ensures settings report name).and_keeps
        (keeps_table Host.Continues.kept settings report name)).imp
      · rintro result after ⟨⟨outcome, rfl, fills, _⟩, stillGoesOn⟩
        exact ⟨(name, outcome), rfl, ⟨rfl, fills⟩, goesOn.trans stillGoesOn,
          same.trans fills.sameEntries, fills.savepoints.trans sameSavepoints⟩
      · rintro _ after ⟨⟨⟨method, lost⟩, stillSame, atop⟩, _⟩
        exact ⟨.lost (goesOn.loses lost), same.trans stillSame,
          (Store.Atop.of_eq sameSavepoints).trans atop⟩
    · intro listed unchanged goesOn
      rw [unchanged]
      exact ⟨goesOn, .refl _, rfl⟩
    · rintro _ after ⟨method, lost⟩ left
      rw [left]
      exact ⟨.lost lost, .refl _, .of_eq rfl⟩
  · rw [all, if_neg plain]
    exact Session.ensures_throw ⟨.unusual plain, .refl _, .of_eq rfl⟩

namespace Run

variable {settings : BackfillSettings} {before after : Store} {report : BackfillReport}

theorem sameEntries (run : Run settings before report after) : before.SameEntries after := by
  obtain ⟨entries, _, chain⟩ := run.steps
  exact chain.invariant before.SameEntries
    (fun link same => same.trans link.2.sameEntries) (.refl _)

theorem savepoints (run : Run settings before report after) :
    after.savepoints = before.savepoints := by
  obtain ⟨entries, _, chain⟩ := run.steps
  exact chain.invariant (fun reached => reached.savepoints = before.savepoints)
    (fun link same => link.2.savepoints.trans same) rfl

/-- A run that refused no table leaves no null in the tables with plain names. -/
theorem complete (run : Run settings before report after) (unfailed : report.failed = [])
    {name : String} (plain : Sql.isPlain name) : Complete settings name after := by
  obtain ⟨entries, rfl, chain⟩ := run.steps
  simp only [BackfillReport.foldl_enter, List.nil_append, List.filterMap_eq_nil_iff] at unfailed
  intro rows stored
  have listed : name ∈ before.tablesWithColumn settings.column := by
    have carried := chain.invariant
      (fun reached => (reached.column? name settings.column).isSome →
        (before.column? name settings.column).isSome)
      (fun link goesBack carries => goesBack (link.2.carried carries)) id
    rw [Store.mem_tablesWithColumn]
    exact carried (Option.isSome_of_eq_some stored)
  exact complete_of_chain chain unfailed name listed plain rows stored

end Run

end Backfill

end TenantGuard
