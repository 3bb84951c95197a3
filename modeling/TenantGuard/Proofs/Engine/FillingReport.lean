import TenantGuard.Proofs.Engine.Filling

/-!
# What the backfill reports

In a store that gets every call, what becomes of a table depends on that table alone: the
savepoint under which it is handled takes back nothing of the tables before it.  So the store
that a backfill starts from tells what it fills and what it reports, and a second backfill finds
nothing to do.
-/

namespace TenantGuard

namespace Backfill

variable {settings : BackfillSettings} {store before after : Store} {name other : String}

def nulls (settings : BackfillSettings) (store : Store) (name : String) : Nat :=
  ((store.column? name settings.column).getD []).countP Option.isNone

/-- What becomes of a table in a store that gets every call. -/
def verdict (settings : BackfillSettings) (store : Store) (name : String) : TableOutcome :=
  if Sql.isPlain name then
    if name ∈ store.rejectedTables then .refused (StoreError.tableRejected name).message
    else .filled (nulls settings store name)
  else .skipped

theorem nulls_of_complete (complete : Complete settings name store) :
    nulls settings store name = 0 := by
  rw [nulls, List.countP_eq_zero]
  rintro row listed isNull
  obtain rfl := Option.isNone_iff_eq_none.mp isNull
  cases carried : store.column? name settings.column with
  | none => simp [carried] at listed
  | some rows =>
      rw [carried, Option.getD_some] at listed
      exact complete rows carried listed

/-- What becomes of a table does not depend on the others. -/
theorem verdict_fill (unlike : other ≠ name) :
    verdict settings (fill settings store name) other = verdict settings store other := by
  have sameColumn : (fill settings store name).column? other settings.column =
      store.column? other settings.column := by
    rw [column?_fill, if_neg fun all => unlike all.1]
  rw [verdict, nulls, sameColumn, rejectedTables_fill, verdict, nulls]

/-- What a backfill reports about a store that gets every call. -/
def reportOn (settings : BackfillSettings) (store : Store) : BackfillReport :=
  let names := store.tablesWithColumn settings.column
  { column := settings.column
    tenant := settings.defaultTenant
    tables := (names.filter fun name => Accepts store name).map fun name =>
      ⟨name, nulls settings store name⟩
    skipped := names.filter fun name => ¬ Sql.isPlain name
    failed := (names.filter fun name => Sql.isPlain name ∧ name ∈ store.rejectedTables).map
      fun name => ⟨name, (StoreError.tableRejected name).message⟩ }

/-- About a store that was filled the same is reported, but for the numbers of rows. -/
theorem reportOn_fillAll :
    reportOn settings (fillAll settings store) =
      { reportOn settings store with
        tables := (reportOn settings store).tables.map fun filled => { filled with rows := 0 } } := by
  have noNulls : ∀ name ∈ (store.tablesWithColumn settings.column).filter (Accepts store ·),
      nulls settings (fillAll settings store) name = 0 := by
    intro name listed
    exact nulls_of_complete (complete_fillAll (of_decide_eq_true (List.mem_filter.mp listed).2))
  simp only [reportOn, tablesWithColumn_fillAll, accepts_fillAll, rejectedTables_fillAll, List.map_map,
    Function.comp_def]
  congr 1
  exact List.map_congr_left fun name listed => congrArg _ (noNulls name listed)

theorem listed_verdict (settings : BackfillSettings) (store : Store) (name : String) :
    (verdict settings store name).backfill? name =
        (if Accepts store name then some ⟨name, nulls settings store name⟩ else none) ∧
      (verdict settings store name).skipped? name =
        (if ¬ Sql.isPlain name then some name else none) ∧
      (verdict settings store name).failure? name =
        if Sql.isPlain name ∧ name ∈ store.rejectedTables then
          some ⟨name, (StoreError.tableRejected name).message⟩
        else none := by
  by_cases plain : Sql.isPlain name
  · by_cases rejected : name ∈ store.rejectedTables
    · simp [verdict, Accepts, plain, rejected, TableOutcome.backfill?, TableOutcome.skipped?,
        TableOutcome.failure?]
    · simp [verdict, Accepts, plain, rejected, TableOutcome.backfill?, TableOutcome.skipped?,
        TableOutcome.failure?]
  · simp [verdict, Accepts, plain, TableOutcome.backfill?, TableOutcome.skipped?,
      TableOutcome.failure?]

/-- A report that lists each table by what becomes of it. -/
theorem foldl_enter_verdict (settings : BackfillSettings) (store : Store) :
    ((store.tablesWithColumn settings.column).map fun name =>
        (name, verdict settings store name)).foldl
      (fun reached entry => reached.enter entry.1 entry.2)
      { column := settings.column, tenant := settings.defaultTenant } =
    reportOn settings store := by
  have lists {α : Type} {names : List String} {chosen : String → Prop} [DecidablePred chosen]
      {shown : String → α} :
      names.filterMap (fun name => if chosen name then some (shown name) else none) =
        (names.filter fun name => chosen name).map shown := by
    rw [← List.filterMap_eq_map, List.filterMap_filter]
    simp only [decide_eq_true_eq, Function.comp_def]
  rw [BackfillReport.foldl_enter, reportOn]
  simp only [List.nil_append, List.filterMap_map, Function.comp_def, listed_verdict, lists,
    List.map_id']

/-- What becomes of a table, and what it leaves, is told by the store before it. -/
def Handles (settings : BackfillSettings) (name : String) (before : Store)
    (entry : String × TableOutcome) (after : Store) : Prop :=
  entry = (name, verdict settings before name) ∧ after = fill settings before name

/-- What becomes of all tables of a list is told by the store before the first of them. -/
theorem handled_of_chain {names : List String} {entries : List (String × TableOutcome)}
    (chain : Chain (Handles settings) names before entries after) (distinct : names.Nodup) :
    entries = names.map (fun name => (name, verdict settings before name)) ∧
      after = names.foldl (fill settings) before := by
  induction chain with
  | nil => exact ⟨rfl, rfl⟩
  | cons first rest ih =>
      obtain ⟨rfl, rfl⟩ := first
      rw [List.nodup_cons] at distinct
      obtain ⟨rfl, rfl⟩ := ih distinct.2
      refine ⟨?_, rfl⟩
      rw [List.map_cons, List.cons.injEq]
      refine ⟨rfl, List.map_congr_left ?_⟩
      intro other listed
      rw [verdict_fill]
      rintro rfl
      exact distinct.1 listed

/-- A table that was filled, refused or skipped with a reason was handled. -/
theorem Fills.handles {outcome : TableOutcome} (fills : Fills settings name before outcome after)
    (told : ∀ detail, outcome = .refused detail →
      name ∈ before.rejectedTables ∧ detail = (StoreError.tableRejected name).message) :
    Handles settings name before (name, outcome) after := by
  cases fills with
  | filled carried plain accepted =>
      refine ⟨?_, (fill_eq_addTable ⟨plain, accepted⟩ carried).symm⟩
      rw [verdict, if_pos plain, if_neg accepted, nulls, carried, Option.getD_some]
  | refused detail plain =>
      obtain ⟨rejected, rfl⟩ := told detail rfl
      refine ⟨by rw [verdict, if_pos plain, if_pos rejected], ?_⟩
      rw [fill, if_neg fun accepts => accepts.2 rejected]
  | skipped unusual =>
      refine ⟨by rw [verdict, if_neg unusual], ?_⟩
      rw [fill, if_neg fun accepts => unusual accepts.1]

/-- Unless a call is lost, only a refusal keeps a table that carries the column from being
filled. -/
theorem Explains.rejected {host : Host} {detail : String}
    (explained : Explains settings name host detail) (reliable : ∀ method, ¬ host.Loses method)
    (carried : (host.store.column? name settings.column).isSome) :
    name ∈ host.store.rejectedTables ∧ detail = (StoreError.tableRejected name).message := by
  obtain ⟨error, rfl, ⟨method, lost⟩ | ⟨cause, rfl, unfillable⟩⟩ := explained
  · exact absurd lost (reliable method)
  · cases unfillable with
    | rejected rejected => exact ⟨rejected, rfl⟩
    | missing missing => simp [missing] at carried

/-- In a store that gets every call, a table is handled as the store says. -/
theorem table_handles {session : Session} (reliable : ∀ method, ¬ session.host.Loses method)
    (report : BackfillReport)
    (carried : (session.host.store.column? name settings.column).isSome) :
    session.Ensures (table settings report name)
      (fun result after => ∃ entry, result = report.enter entry.1 entry.2 ∧
        Handles settings name session.host.store entry after.host.store)
      (fun _ _ => False) := by
  apply (table_ensures settings report name).imp
  · rintro result after ⟨outcome, rfl, fills, explained⟩
    exact ⟨(name, outcome), rfl, fills.handles fun detail refused =>
      (explained detail refused).rejected reliable carried⟩
  · rintro _ _ ⟨⟨method, lost⟩, _⟩
    exact reliable method lost

/-- In a store that gets every call, the tables are handled one after the other. -/
theorem all_handles {session : Session} (reliable : ∀ method, ¬ session.host.Loses method)
    (plain : Sql.isPlain settings.column) :
    session.Ensures (all settings)
      (fun report after => ∃ entries, report = entries.foldl
          (fun reached entry => reached.enter entry.1 entry.2)
          { column := settings.column, tenant := settings.defaultTenant } ∧
        Chain (Handles settings) (session.host.store.tablesWithColumn settings.column)
          session.host.store entries after.host.store ∧
        session.host.Continues after.host)
      (fun _ _ => False) := by
  apply (all_ensures_chain plain (Handles settings)
    (fun reached => session.host.Continues reached.host ∧
      ∀ name ∈ session.host.store.tablesWithColumn settings.column,
        (reached.host.store.column? name settings.column).isSome)
    (fun _ _ => False) _ _ _).imp
  · rintro report after ⟨entries, told, chain, goesOn, _⟩
    exact ⟨entries, told, chain, goesOn⟩
  · exact fun _ _ => id
  · rintro name isTable report reached ⟨goesOn, carried⟩
    apply ((table_handles (fun method lost => reliable method (goesOn.loses lost)) report
      (carried name isTable)).and_keeps
      (keeps_table Host.Continues.kept settings report name)).imp
    · rintro result after ⟨⟨entry, rfl, handles⟩, stillGoesOn⟩
      refine ⟨entry, rfl, handles, goesOn.trans stillGoesOn, ?_⟩
      rw [handles.2]
      intro other isTableToo
      rw [isSome_column?_fill]
      exact carried other isTableToo
    · exact fun _ _ stopped => stopped.1
  · intro listed unchanged goesOn
    rw [unchanged]
    exact ⟨goesOn, fun _ => Store.mem_tablesWithColumn.mp⟩
  · rintro _ after ⟨method, lost⟩ _
    exact reliable method lost

/-- In a store that gets every call, a backfill is told by the store that it starts from. -/
theorem all_returns {session : Session} (reliable : ∀ method, ¬ session.host.Loses method)
    (plain : Sql.isPlain settings.column) :
    ∃ after, session.run (all settings) = (.ok (reportOn settings session.host.store), after) ∧
      after.host.store = fillAll settings session.host.store ∧
      session.host.Continues after.host := by
  obtain ⟨report, after, ran, entries, rfl, chain, continues⟩ :=
    (all_handles reliable plain).returned fun _ _ => id
  obtain ⟨rfl, left⟩ := handled_of_chain chain
    (session.host.store.nodup_tablesWithColumn settings.column)
  rw [foldl_enter_verdict] at ran
  exact ⟨after, ran, left, continues⟩

/-- What a report tells of the stores before and after the backfill. -/
structure Accounts (settings : BackfillSettings) (before : Store) (report : BackfillReport)
    (after : Store) : Prop where
  /-- Every table that carries the column stands in one of the three lists, once. -/
  together : (report.tables.map (·.table) ++ report.skipped ++ report.failed.map (·.table)).Perm
    (before.tablesWithColumn settings.column)
  tables : report.tables.map (·.table) = (before.tablesWithColumn settings.column).filter fun name =>
    Sql.isPlain name ∧ name ∉ before.rejectedTables
  skipped : report.skipped = (before.tablesWithColumn settings.column).filter fun name =>
    ¬ Sql.isPlain name
  failed : report.failed = ((before.tablesWithColumn settings.column).filter fun name =>
      Sql.isPlain name ∧ name ∈ before.rejectedTables).map
    fun name => ⟨name, (StoreError.tableRejected name).message⟩
  /-- In a table that was filled, every null has become the default tenant. -/
  filled : ∀ filled ∈ report.tables, ∃ rows,
    before.column? filled.table settings.column = some rows ∧
    filled.rows = rows.countP Option.isNone ∧
    after.column? filled.table settings.column =
      some (rows.map fun row => some (row.getD settings.defaultTenant))
  otherColumns : ∀ name column,
    ¬ (column = settings.column ∧ name ∈ report.tables.map (·.table)) →
      after.column? name column = before.column? name column
  otherTables : ∀ name ∉ report.tables.map (·.table),
    after.data.tables[name]? = before.data.tables[name]?
  others : ∃ tables, after = { before with data := { before.data with tables } }

/-- The tables are those that are filled, those with unusual names and those that refuse. -/
theorem perm_tables (store : Store) (names : List String) :
    (names.filter (Accepts store ·) ++ names.filter (fun name => ¬ Sql.isPlain name) ++
      names.filter fun name => Sql.isPlain name ∧ name ∈ store.rejectedTables).Perm names := by
  have ofPlain : (names.filter (Accepts store ·) ++ names.filter fun name =>
      Sql.isPlain name ∧ name ∈ store.rejectedTables).Perm (names.filter (Sql.isPlain ·)) := by
    have parts := List.filter_append_perm (fun name => decide (name ∉ store.rejectedTables))
      (names.filter (Sql.isPlain ·))
    simpa [List.filter_filter, Accepts, and_comm] using parts
  have ofAll : (names.filter (Sql.isPlain ·) ++ names.filter fun name => ¬ Sql.isPlain name).Perm
      names := by
    simpa using List.filter_append_perm (Sql.isPlain ·) names
  rw [List.append_assoc]
  refine (List.perm_append_comm.append_left _).trans ?_
  rw [← List.append_assoc]
  exact (ofPlain.append_right _).trans ofAll

/-- What is reported on a store accounts for what is filled in it. -/
theorem accounts_reportOn (settings : BackfillSettings) (store : Store) :
    Accounts settings store (reportOn settings store) (fillAll settings store) := by
  have tables : (reportOn settings store).tables.map (·.table) =
      (store.tablesWithColumn settings.column).filter (Accepts store ·) := by
    rw [reportOn, List.map_map]
    exact List.map_id _
  have failed : (reportOn settings store).failed.map (·.table) =
      (store.tablesWithColumn settings.column).filter fun name =>
        Sql.isPlain name ∧ name ∈ store.rejectedTables := by
    rw [reportOn, List.map_map]
    exact List.map_id _
  have mem_tables {name : String} (carried : (store.column? name settings.column).isSome)
      (accepts : Accepts store name) : name ∈ (reportOn settings store).tables.map (·.table) := by
    rw [tables, List.mem_filter, decide_eq_true_eq]
    exact ⟨Store.mem_tablesWithColumn.mpr carried, accepts⟩
  refine ⟨?_, tables, rfl, rfl, ?_, ?_, ?_, fillAll_frame settings store⟩
  · rw [tables, failed]
    exact perm_tables store _
  · intro filled listed
    obtain ⟨name, accepted, rfl⟩ := List.mem_map.mp listed
    rw [List.mem_filter, decide_eq_true_eq] at accepted
    obtain ⟨rows, carried⟩ :=
      Option.isSome_iff_exists.mp (Store.mem_tablesWithColumn.mp accepted.1)
    refine ⟨rows, carried, ?_, ?_⟩
    · rw [nulls, carried, Option.getD_some]
    · rw [column?_fillAll, if_pos ⟨rfl, accepted.2⟩, carried]
      rfl
  · intro name column unlike
    rw [column?_fillAll]
    split
    next filled =>
      obtain ⟨rfl, accepts⟩ := filled
      cases carried : store.column? name settings.column with
      | none => rfl
      | some rows =>
          exact absurd ⟨rfl, mem_tables (Option.isSome_of_eq_some carried) accepts⟩ unlike
    next => rfl
  · intro name unlisted
    apply tables_foldl_fill
    rintro ⟨listed, accepts⟩
    exact unlisted (mem_tables (Store.mem_tablesWithColumn.mp listed) accepts)

/-- In a store that gets every call, whichever tables refuse, the backfill of a column that can
stand in a statement comes to its end.  The tables with the column are gone through in ascending
order of their names, and the report accounts for all of them.  A second backfill reports the
same with no row filled, and leaves the store as it is. -/
theorem all_accounts {session : Session} (reliable : ∀ method, ¬ session.host.Loses method)
    {settings : BackfillSettings} (plain : Sql.isPlain settings.column) :
    let before := session.host.store
    let names := before.tablesWithColumn settings.column
    (names.Pairwise (· < ·) ∧
      ∀ name, name ∈ names ↔ (before.column? name settings.column).isSome) ∧
    ∃ report after, session.run (all settings) = (.ok report, after) ∧
      Accounts settings before report after.host.store ∧
      ∃ again, after.run (all settings) =
          (.ok { report with tables := report.tables.map fun filled => { filled with rows := 0 } },
            again) ∧
        again.host.store = after.host.store := by
  intro before names
  refine ⟨⟨before.tablesWithColumn_ascending _, fun _ => Store.mem_tablesWithColumn⟩, ?_⟩
  obtain ⟨after, ran, left, continues⟩ := all_returns reliable plain
  have stillReliable : ∀ method, ¬ after.host.Loses method :=
    fun method lost => reliable method (continues.loses lost)
  obtain ⟨again, ranAgain, leftAgain, _⟩ := all_returns stillReliable plain
  rw [left, reportOn_fillAll] at ranAgain
  refine ⟨_, after, ran, ?_, again, ranAgain, ?_⟩
  · rw [left]
    exact accounts_reportOn settings before
  · rw [leftAgain, left, fillAll_fillAll]

/-- Under an open savepoint, one table is filled, one refuses and one has an unusual name. -/
theorem all_accounts_mixed :
    let store := ((((({} : Store).addTable "sale_order" "company_id" [none, some 7, none]).addTable
      "sale_order" "origin_id" [none]).addTable "res_partner" "company_id" [none]).addTable
      "old orders" "company_id" [none]).rejectTable "res_partner"
    let session : Session := { host := { store := store.savepoint "import" } }
    let settings : BackfillSettings := {}
    Sql.isPlain settings.column ∧ ∃ report after,
      session.run (all settings) = (.ok report, after) ∧
      report.tables.map (·.table) = ["sale_order"] ∧ report.skipped = ["old orders"] ∧
      report.failed = [⟨"res_partner", "update of res_partner rejected"⟩] ∧
      after.host.store.column? "sale_order" "company_id" = some [some 1, some 7, some 1] ∧
      after.host.store.column? "sale_order" "origin_id" = some [none] ∧
      after.host.store.column? "res_partner" "company_id" = some [none] ∧
      after.host.store.savepoints.length = 1 := by
  intro store session settings
  have plain : Sql.isPlain settings.column := by decide +kernel
  obtain ⟨_, report, after, ran, accounts, _⟩ :=
    @all_accounts session (Host.reliable_of_default _) settings plain
  have tables : report.tables.map (·.table) = ["sale_order"] :=
    accounts.tables.trans (by decide +kernel)
  have kept : ∀ name column, ¬ (column = "company_id" ∧ name = "sale_order") →
      after.host.store.column? name column = store.column? name column := by
    intro name column unlike
    apply accounts.otherColumns
    rw [tables, List.mem_singleton]
    exact unlike
  have filled : after.host.store.column? "sale_order" "company_id" =
      some [some 1, some 7, some 1] := by
    have listed : "sale_order" ∈ report.tables.map (·.table) := by
      rw [tables]
      exact List.mem_cons_self
    obtain ⟨entry, isListed, named⟩ := List.mem_map.mp listed
    obtain ⟨rows, carried, _, left⟩ := accounts.filled entry isListed
    have former : session.host.store.column? "sale_order" "company_id" =
        some [none, some 7, none] := by decide +kernel
    rw [named, former, Option.some.injEq] at carried
    rw [named, ← carried] at left
    exact left
  obtain ⟨others, same⟩ := accounts.others
  refine ⟨plain, report, after, ran, tables, accounts.skipped.trans (by decide +kernel),
    accounts.failed.trans (by decide +kernel), filled, ?_, ?_, ?_⟩
  · exact (kept "sale_order" "origin_id" (by decide)).trans (by decide +kernel)
  · exact (kept "res_partner" "company_id" (by decide)).trans (by decide +kernel)
  · rw [same]
    rfl

end Backfill

end TenantGuard
