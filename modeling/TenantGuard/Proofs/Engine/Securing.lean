import TenantGuard.Proofs.Engine.Backfill
import TenantGuard.Proofs.Engine.Cumulative

/-!
# Securing a store

A run has two halves, each of which ends in a report or in an error that the run's own
report holds.  It changes records and external identifiers only in the first, the pass over
the catalog, since the backfill writes to tables alone.  On a host that nothing hinders, the
pass always comes to its end.
-/

namespace TenantGuard

namespace Secure

/-- The pass of a run, under its savepoint. -/
structure Passes (policy : Policy) (before : Host) (summary : Summary) (after : Store) : Prop where
  steps : ∃ opened reached : Host, opened.store = before.store.savepoint reconcileSavepoint ∧
    before.Continues opened ∧ Reconcile.PassRun policy opened summary reached ∧
    after.SameEntries reached.store

/-- A pass that gives no summary.  Nothing is left of it, or it came to its end and the last
call, which should have closed its savepoint, failed. -/
inductive Aborts (policy : Policy) (before after : Host) : Prop where
  | untouched (data : after.store.data = before.store.data)
      (closed : after.failures.head? ≠ some .releaseSavepoint)
  | unclosed {summary : Summary} (passes : Passes policy before summary after.store)
      (failed : after.failures.head? = some .releaseSavepoint)

/-- The first half of a run: the summary, if there is one, and what is missing. -/
inductive Reconciliation (policy : Policy) (before : Host) :
    Option Summary × List String → Host → Prop where
  | passed {summary : Summary} {after : Host} (passes : Passes policy before summary after.store)
      (group : summary.managerGroup.isSome) :
      Reconciliation policy before (some summary, []) after
  | groupless {summary : Summary} {after : Host}
      (passes : Passes policy before summary after.store) (group : summary.managerGroup = none) :
      Reconciliation policy before
        (some summary,
          [s!"manager group {policy.config.managerGroup} not found; manager records skipped"])
        after
  | aborted {error : EngineError} {after : Host} (hindered : before.Hindered)
      (aborts : Aborts policy before after) :
      Reconciliation policy before (none, [s!"reconciliation aborted: {error.message}"]) after

/-- The second half of a run: the report on the tables, if there is one, and what
failed. -/
inductive Backfilling (settings : BackfillSettings) (before : Store) :
    Option BackfillReport × List String → Store → Prop where
  | disabled (off : ¬ settings.enabled) : Backfilling settings before (none, []) before
  | filled {report : BackfillReport} {reached : Store}
      (run : Backfill.Run settings (before.savepoint backfillSavepoint) report reached) :
      Backfilling settings before
        (some report, report.failed.map fun failure =>
          s!"backfill of {failure.table} failed: {failure.detail}")
        { reached with savepoints := before.savepoints }
  | aborted {error : EngineError} {after : Store} (same : before.SameEntries after) :
      Backfilling settings before (none, [s!"backfill failed: {error.message}"]) after

/-- A run puts its two halves together. -/
structure Runs (policy : Policy) (before : Host) (report : Report) (after : Store) : Prop where
  steps : ∃ summary missing filled failed, ∃ reached : Host,
    Reconciliation policy before (summary, missing) reached ∧
    Backfilling policy.config.backfill reached.store (filled, failed) after ∧
    report = { reconcile := summary, backfill := filled, errors := missing ++ failed }

/-- The pass of a run comes to its end unless something hinders the host. -/
theorem within_all_ensures {session : Session} (orderly : session.host.Orderly)
    (policy : Policy) :
    session.Ensures (within reconcileSavepoint (Reconcile.all policy))
      (fun summary after => Passes policy session.host summary after.host.store)
      (fun _ after => session.host.Hindered ∧ Aborts policy session.host after.host) := by
  have under : ∀ opened : Session,
      opened.host.store = session.host.store.savepoint reconcileSavepoint →
      session.host.Continues opened.host →
      opened.Ensures (Reconcile.all policy)
        (fun summary reached =>
          (∃ start : Host, start.store = session.host.store.savepoint reconcileSavepoint ∧
            session.host.Continues start ∧ Reconcile.PassRun policy start summary reached.host) ∧
          opened.host.store.Atop reconcileSavepoint reached.host.store)
        (fun _ reached => (session.host.Hindered ∧
            reached.host.store.data = session.host.store.data ∧
            reached.host.failures.head? ≠ some .releaseSavepoint) ∧
          opened.host.store.Atop reconcileSavepoint reached.host.store) := by
    intro opened saved goesOn
    apply (Reconcile.all_ensures (goesOn.orderly orderly) policy).imp
    · intro summary reached pass
      exact ⟨⟨opened.host, saved, goesOn, pass⟩, pass.atop⟩
    · rintro _ reached ⟨left, method, named, lost, failures⟩
      refine ⟨⟨goesOn.hindered (.inl ⟨method, lost⟩), ?_, ?_⟩, .of_eq (by rw [left])⟩
      · rw [left, saved]
        rfl
      · rcases named with rfl | rfl <;> simp [failures]
  apply (within_ensures (Reconcile.keeps_all Host.Continues.kept policy) under).imp
  · rintro summary after ⟨reached, ⟨start, saved, goesOn, pass⟩, left⟩
    refine ⟨start, reached.host, saved, goesOn, pass, ?_⟩
    rw [left]
    exact (Store.SameEntries.withSavepoints _ _).symm
  · intro _ after fails
    cases fails with
    | unopened lost left failures =>
        exact ⟨lost.hindered, .untouched (by rw [left]) (by simp [failures])⟩
    | unreleased lost worked left failures =>
        obtain ⟨summary, start, saved, goesOn, pass⟩ := worked
        refine ⟨lost.hindered, .unclosed ⟨start, _, saved, goesOn, pass, ?_⟩ (by simp [failures])⟩
        rw [left]
        exact .refl _
    | takenBack broken left failures =>
        obtain ⟨hindered, _, closed⟩ := broken
        exact ⟨hindered, .untouched (by rw [left]) (by rwa [failures])⟩
    | stuck lost broken left failures =>
        obtain ⟨_, data, _⟩ := broken
        exact ⟨lost.hindered, .untouched (by rw [left, data]) (by simp [failures])⟩

/-- The backfill leaves the records and external identifiers alone, however it goes. -/
theorem within_fill_ensures {session : Session} (settings : BackfillSettings) :
    session.Ensures (within backfillSavepoint (Backfill.all settings))
      (fun report after => Sql.isPlain settings.column ∧ ∃ reached,
        Backfill.Run settings (session.host.store.savepoint backfillSavepoint) report reached ∧
        after.host.store = { reached with savepoints := session.host.store.savepoints })
      (fun error after => Backfill.Blocked settings session.host error ∧
        session.host.store.SameEntries after.host.store) := by
  have under : ∀ opened : Session,
      opened.host.store = session.host.store.savepoint backfillSavepoint →
      session.host.Continues opened.host →
      opened.Ensures (Backfill.all settings)
        (fun report reached => (Sql.isPlain settings.column ∧
            Backfill.Run settings (session.host.store.savepoint backfillSavepoint) report
              reached.host.store) ∧
          opened.host.store.Atop backfillSavepoint reached.host.store)
        (fun error reached => (Backfill.Blocked settings session.host error ∧
            session.host.store.SameEntries reached.host.store) ∧
          opened.host.store.Atop backfillSavepoint reached.host.store) := by
    intro opened saved goesOn
    apply (Backfill.all_ensures settings).imp
    · rintro report reached ⟨plain, run⟩
      rw [saved] at run ⊢
      exact ⟨⟨plain, run⟩, .of_eq run.savepoints⟩
    · rintro _ reached ⟨blocked, same, atop⟩
      rw [saved] at same
      exact ⟨⟨blocked.of_continues goesOn, .trans (.opened _ _) same⟩, atop⟩
  apply (within_ensures (Backfill.keeps_all Host.Continues.kept settings) under).imp
  · rintro report after ⟨reached, ⟨plain, run⟩, left⟩
    exact ⟨plain, reached.host.store, run, left⟩
  · intro _ after fails
    cases fails with
    | unopened lost left =>
        rw [left]
        exact ⟨.lost lost, .refl _⟩
    | unreleased lost worked left =>
        obtain ⟨_, _, run⟩ := worked
        rw [left]
        exact ⟨.lost lost, .trans (.opened _ _) run.sameEntries⟩
    | takenBack broken left =>
        obtain ⟨blocked, same⟩ := broken
        rw [left]
        exact ⟨blocked, ⟨fun _ => rfl, same.lastId, same.counts⟩, rfl⟩
    | stuck lost broken left =>
        rw [left]
        exact ⟨.lost lost, broken.2⟩

/-- Events reach neither the store nor its host. -/
theorem recordTables_yields {session : Session} (report : BackfillReport) :
    session.Yields (recordTables report) fun _ after => after.host = session.host := by
  rw [recordTables]
  induction report.tables.filter fun filled => 0 < filled.rows generalizing session with
  | nil => exact Session.yields_pure rfl
  | cons filled others ih =>
      rw [List.forM_eq_forM, List.forM_cons]
      apply Session.yields_bind
      apply Session.yields_record
      intro recorded sameHost
      rw [← sameHost]
      exact ih

/-- The first half of a run leaves the host as its pass does. -/
theorem host_reconcile (session : Session) (policy : Policy) :
    (session.act (reconcile policy)).2.host =
      (session.run (within reconcileSavepoint (Reconcile.all policy))).2.host := by
  have reached : session.Yields (reconcile policy) fun _ after =>
      after.host = (session.run (within reconcileSavepoint (Reconcile.all policy))).2.host := by
    rw [reconcile]
    apply Session.yields_bind
    apply Session.yields_attempt
    obtain ⟨summary, after, ran⟩ | ⟨error, after, ran⟩ :=
      session.returns_or_stops (within reconcileSavepoint (Reconcile.all policy))
    · rw [Session.ensures_of_returned ran, ran]
      dsimp only
      split
      · exact Session.yields_pure rfl
      · exact Session.yields_pure rfl
    · rw [Session.ensures_of_stopped ran, ran]
      apply Session.yields_bind_warn
      intro warned sameHost
      exact Session.yields_pure sameHost
  exact reached

/-- The second half of a run leaves the host as the backfill does, if it is not switched
off. -/
theorem host_backfill (session : Session) (policy : Policy) :
    (session.act (backfill policy)).2.host =
      if policy.config.backfill.enabled then
        (session.run (within backfillSavepoint (Backfill.all policy.config.backfill))).2.host
      else session.host := by
  have reached : session.Yields (backfill policy) fun _ after => after.host =
      if policy.config.backfill.enabled then
        (session.run (within backfillSavepoint (Backfill.all policy.config.backfill))).2.host
      else session.host := by
    rw [backfill]
    split
    · apply Session.yields_bind
      apply Session.yields_attempt
      obtain ⟨report, after, ran⟩ | ⟨error, after, ran⟩ :=
        session.returns_or_stops (within backfillSavepoint (Backfill.all policy.config.backfill))
      · rw [Session.ensures_of_returned ran, ran]
        apply Session.yields_bind
        apply (recordTables_yields report).imp
        intro _ recorded sameHost
        exact Session.yields_pure sameHost
      · rw [Session.ensures_of_stopped ran, ran]
        apply Session.yields_bind_warn
        intro warned sameHost
        exact Session.yields_pure sameHost
    · exact Session.yields_pure rfl
  exact reached

theorem backfill_yields {session : Session} (policy : Policy) :
    session.Yields (backfill policy) fun result after =>
      Backfilling policy.config.backfill session.host.store result after.host.store := by
  rw [backfill]
  split
  next enabled =>
    apply Session.yields_bind
    apply Session.yields_attempt
    apply (within_fill_ensures policy.config.backfill).imp
    · rintro report after ⟨_, reached, run, left⟩
      apply Session.yields_bind
      apply (recordTables_yields report).imp
      intro _ recorded sameHost
      apply Session.yields_pure
      rw [sameHost, left]
      exact .filled run
    · rintro error after ⟨_, same⟩
      apply Session.yields_bind_warn
      intro warned sameHost
      apply Session.yields_pure
      rw [sameHost]
      exact .aborted same
  next off => exact Session.yields_pure (.disabled off)

theorem reconcile_yields {session : Session} (orderly : session.host.Orderly) (policy : Policy) :
    session.Yields (reconcile policy) fun result after =>
      Reconciliation policy session.host result after.host := by
  rw [reconcile]
  apply Session.yields_bind
  apply Session.yields_attempt
  apply (within_all_ensures orderly policy).imp
  · intro summary after passes
    dsimp only
    split
    next group =>
      rw [Option.isNone_iff_eq_none] at group
      exact Session.yields_pure (.groupless passes group)
    next group =>
      rw [Bool.not_eq_true, Option.isNone_eq_false_iff] at group
      exact Session.yields_pure (.passed passes group)
  · rintro error after ⟨hindered, aborts⟩
    apply Session.yields_bind_warn
    intro warned sameHost
    apply Session.yields_pure
    rw [sameHost]
    exact .aborted hindered aborts

variable {policy : Policy} {before : Host} {reached after : Store}

theorem Backfilling.sameEntries {settings : BackfillSettings}
    {result : Option BackfillReport × List String}
    (backfills : Backfilling settings reached result after) : reached.SameEntries after := by
  cases backfills with
  | disabled => exact .refl _
  | filled run => exact (Store.SameEntries.opened _ _).trans (run.sameEntries.trans
      (.withSavepoints _ _))
  | aborted same => exact same

theorem Backfilling.sameRecords {settings : BackfillSettings}
    {result : Option BackfillReport × List String}
    (backfills : Backfilling settings reached result after) : reached.SameRecords after :=
  backfills.sameEntries.toSameRecords

/-- What happens to a store once the pass is over does not matter to it, as long as the
records and external identifiers stay the same. -/
theorem Passes.congr {summary : Summary} (passes : Passes policy before summary reached)
    (same : reached.SameEntries after) : Passes policy before summary after := by
  obtain ⟨opened, left, saved, goesOn, pass, sameLeft⟩ := passes.steps
  exact ⟨opened, left, saved, goesOn, pass, same.symm.trans sameLeft⟩

/-- What adds up over the pass over the catalog holds of the pass of a run, if it notices
nothing but records and external identifiers.  On a host that nothing hinders, the list is that
of all desired records. -/
theorem Passes.of_cumulative {summary : Summary} {holds : Reconcile.Account}
    (passes : Passes policy before summary after)
    (cumulative : Reconcile.Cumulative policy holds)
    (idle : ∀ {earlier later : Store}, earlier.SameEntries later → holds [] [] earlier later)
    (kept : (holds.Forgets ∧ ¬ before.Loses .rollbackToSavepoint) ∨ ¬ before.Hindered)
    (formed : before.store.WellFormed) :
    ∃ list : List SettledRecord,
      (list.map (·.1)).Sublist (policy.allDesired before.store) ∧
      (¬ before.Hindered → list.map (·.1) = policy.allDesired before.store) ∧
      summary.outcomes.flatMap (·.records) = list.map SettledRecord.report ∧
      holds list summary.collisions before.store after := by
  obtain ⟨opened, left, saved, goesOn, pass, sameLeft⟩ := passes.steps
  have unfailed : ¬ before.Hindered → ∀ failure ∈ summary.failures, failure.kind ≠ .store :=
    fun unhindered => pass.unfailed fun hindered => unhindered (goesOn.hindered hindered)
  have sameOpened : before.store.SameEntries opened.store := by
    rw [saved]
    exact .opened _ _
  obtain ⟨list, sublist, complete, reported, told⟩ := cumulative.of_pass pass
    (kept.imp (fun ⟨forgets, goesBack⟩ => ⟨forgets, fun lost => goesBack (goesOn.loses lost)⟩)
      unfailed)
    (goesOn.wellFormed formed)
  rw [Policy.allDesired_congr goesOn.setting] at sublist complete
  have toldOutside := cumulative.append
    (cumulative.append (idle sameOpened) told (by simp)) (idle sameLeft.symm) (by simp)
  rw [List.nil_append, List.append_nil, List.nil_append, List.append_nil] at toldOutside
  exact ⟨list, sublist, fun unhindered => complete (unfailed unhindered), reported, toldOutside⟩

end Secure

/-- A run reports what its two halves come to, and leaves the host as the second half does,
which starts from where the first one got to. -/
theorem secure_of_halves (session : Session) (policy : Policy) :
    let passed := session.act (Secure.reconcile policy)
    let filled := passed.2.act (Secure.backfill policy)
    (session.act (secure policy)).1 =
        { reconcile := passed.1.1, backfill := filled.1.1, errors := passed.1.2 ++ filled.1.2 } ∧
      (session.act (secure policy)).2.host = filled.2.host := by
  intro passed filled
  have together : session.Yields (secure policy) fun report after =>
      report = { reconcile := passed.1.1, backfill := filled.1.1,
                 errors := passed.1.2 ++ filled.1.2 } ∧
        after.host = filled.2.host := by
    rw [secure]
    apply Session.yields_bind
    rw [Session.Yields]
    apply Session.yields_bind
    rw [Session.Yields]
    dsimp only
    split
    · apply Session.yields_bind_warn
      intro warned sameHost
      exact Session.yields_pure ⟨rfl, sameHost⟩
    · exact Session.yields_pure ⟨rfl, rfl⟩
  exact together

theorem secure_yields {session : Session} (orderly : session.host.Orderly) (policy : Policy) :
    session.Yields (secure policy) fun report after =>
      Secure.Runs policy session.host report after.host.store := by
  obtain ⟨reported, sameHost⟩ := secure_of_halves session policy
  rw [Session.Yields, sameHost]
  exact ⟨_, _, _, _, _, Secure.reconcile_yields orderly policy, Secure.backfill_yields policy,
    reported⟩

/-- A run whose report has a summary got it from its pass, and left what the pass did. -/
theorem Secure.Runs.passes_of_summary {policy : Policy} {before : Host} {report : Report}
    {after : Store} {summary : Summary} (runs : Runs policy before report after)
    (reported : report.reconcile = some summary) : Passes policy before summary after := by
  obtain ⟨passed, missing, filled, failed, reached, reconciles, backfills, rfl⟩ := runs.steps
  cases reconciles with
  | passed passes | groupless passes =>
      cases reported
      exact passes.congr backfills.sameEntries
  | aborted => cases reported

/-- On a host that nothing hinders, a run of the whole engine does to the records
what its pass over the catalog does. -/
theorem Secure.Runs.passes {policy : Policy} {before : Host} {report : Report} {after : Store}
    (runs : Runs policy before report after) (unhindered : ¬ before.Hindered) :
    ∃ summary, report.reconcile = some summary ∧ Passes policy before summary after := by
  obtain ⟨summary, missing, filled, failed, reached, reconciles, backfills, rfl⟩ := runs.steps
  cases reconciles with
  | passed passes | groupless passes => exact ⟨_, rfl, passes.congr backfills.sameEntries⟩
  | aborted hindered => exact absurd hindered unhindered

end TenantGuard
