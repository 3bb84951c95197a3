import TenantGuard.Proofs.Config.Valid
import TenantGuard.Proofs.Engine.CleanReport

/-!
# Runs of a valid configuration

A valid configuration names its manager group by a reference that can be read, so a run never
logs that it cannot.  On a host that nothing hinders, what a run has to complain of is then a
group that the store does not hold, tables that refuse to be filled, or the column of the
backfill: validity only asks for a name that is not blank, while a column that is no plain
name stops the backfill.
-/

namespace TenantGuard

variable {α : Type}

/-- Every run of the action adds nothing but events of this kind to the log. -/
def Action.Logs (each : LogEvent → Prop) (action : Action α) : Prop :=
  ∀ session : Session, ∃ events,
    (session.act action).2.log = session.log ++ events ∧ ∀ event ∈ events, each event

theorem Action.logs_nothing {each : LogEvent → Prop} {action : Action α}
    (silent : ∀ session : Session, (session.act action).2.log = session.log) :
    action.Logs each := by
  intro session
  refine ⟨[], ?_, by simp⟩
  rw [silent, List.append_nil]

/-- All that the engine does adds to the log. -/
theorem Action.logs_composed {each : LogEvent → Prop}
    (others : ∀ event, event ≠ .malformedGroupReference → each event) :
    Action.Composed fun _ action => action.Logs each where
  pure := fun _ => logs_nothing fun _ => rfl
  bind := by
    intro α β first next firstLogs nextLogs session
    obtain ⟨earlier, logged, eachEarlier⟩ := firstLogs session
    obtain ⟨later, loggedNext, eachLater⟩ := nextLogs (session.act first).1 (session.act first).2
    refine ⟨earlier ++ later, ?_, ?_⟩
    · rw [← List.append_assoc, ← logged]
      exact loggedNext
    · rw [List.forall_mem_append]
      exact ⟨eachEarlier, eachLater⟩
  call := fun _ => logs_nothing fun _ => rfl
  record := fun _ => logs_nothing fun _ => rfl
  warn := by
    intro event unlike session
    exact ⟨[event], rfl, by simpa using others event unlike⟩

/-- A run logs that the manager group cannot be read only if it cannot. -/
theorem logs_secure {policy : Policy} (readable : policy.config.managerReference? ≠ none) :
    (secure policy).Logs (· ≠ .malformedGroupReference) :=
  acts_secure (Action.logs_composed fun _ unlike => unlike) policy
    fun unreadable => absurd unreadable readable

namespace Secure

/-- What the first half of a run says is missing. -/
def missing (policy : Policy) (store : Store) : List String :=
  if (policy.groupIn store).isNone then
    [s!"manager group {policy.config.managerGroup} not found; manager records skipped"]
  else
    []

/-- What the second half of a run says has failed. -/
def failed (settings : BackfillSettings) : Option BackfillReport → List String
  | some report => report.failed.map fun failure =>
      s!"backfill of {failure.table} failed: {failure.detail}"
  | none =>
      if settings.enabled then
        [s!"backfill failed: {(EngineError.invalidIdentifier settings.column).message}"]
      else
        []

/-- If nothing hinders the host, only the manager group can be missing. -/
theorem reconcile_unhindered {session : Session} (orderly : session.host.Orderly)
    (unhindered : ¬ session.host.Hindered) (policy : Policy) :
    session.Yields (reconcile policy) fun result _ =>
      result.1.isSome ∧ result.2 = missing policy session.host.store := by
  apply (reconcile_yields orderly policy).imp
  rintro ⟨summary, said⟩ after reconciles
  cases reconciles with
  | passed passes group =>
      rw [passes.managerGroup] at group
      rw [missing, Option.isNone_eq_false_iff.mpr group]
      exact ⟨rfl, rfl⟩
  | groupless passes group =>
      rw [passes.managerGroup] at group
      rw [missing, group]
      exact ⟨rfl, rfl⟩
  | aborted hindered => exact absurd hindered unhindered

/-- If no call is lost, only a column that cannot stand in a statement stops the backfill. -/
theorem backfill_reliable {session : Session}
    (reliable : ∀ method, ¬ session.host.Loses method) (policy : Policy) :
    session.Yields (backfill policy) fun result _ =>
      (result.1.isSome ↔ policy.config.backfill.enabled = true ∧
        Sql.isPlain policy.config.backfill.column = true) ∧
      result.2 = failed policy.config.backfill result.1 := by
  rw [backfill]
  split
  next enabled =>
    apply Session.yields_bind
    apply Session.yields_attempt
    apply (within_fill_ensures policy.config.backfill).imp
    · rintro report after ⟨plain, _⟩
      apply Session.yields_bind
      apply (recordTables_yields report).imp
      intro _ recorded _
      exact Session.yields_pure ⟨⟨fun _ => ⟨enabled, plain⟩, fun _ => rfl⟩, rfl⟩
    · rintro error after ⟨blocked, _⟩
      apply Session.yields_bind_warn
      intro warned _
      apply Session.yields_pure
      cases blocked with
      | lost lost => exact absurd lost (reliable _)
      | unusual unusual =>
          rw [failed, if_pos enabled]
          exact ⟨⟨fun none => (by cases none), fun both => absurd both.2 unusual⟩, rfl⟩
  next off =>
    apply Session.yields_pure
    rw [failed, if_neg off]
    exact ⟨⟨fun none => (by cases none), fun both => absurd both.1 off⟩, rfl⟩

end Secure

/-- A valid configuration names its manager group by a module and a name, and no run of it logs
a malformed reference.  If nothing hinders the host, the catalog is reconciled, and a backfill
that is switched on comes to its end exactly if its column is a plain name.  All that is said
then to have gone wrong is that the group is missing, that a table refused, or that the column
cannot stand in a statement. -/
theorem secure_of_valid {config : Config} (valid : config.validate = .ok ()) :
    ∃ reference, config.managerReference? = some reference ∧ reference.module ≠ "" ∧
      reference.name ≠ "" ∧ reference.text = config.managerGroup ∧
      ∀ (classifier : Classifier) (session : Session),
        let policy : Policy := { classifier, config }
        let report := (session.act (secure policy)).1
        (∃ events, (session.act (secure policy)).2.log = session.log ++ events ∧
          LogEvent.malformedGroupReference ∉ events) ∧
        (session.host.Orderly → ¬ session.host.Hindered →
          report.reconcile.isSome ∧
          (report.backfill.isSome ↔ config.backfill.enabled = true ∧
            Sql.isPlain config.backfill.column = true) ∧
          report.errors = Secure.missing policy session.host.store ++
            Secure.failed config.backfill report.backfill) := by
  obtain ⟨reference, read, moduleNonempty, nameNonempty, written⟩ :=
    Config.managerReference?_of_validate valid
  refine ⟨reference, read, moduleNonempty, nameNonempty, written, ?_⟩
  intro classifier session policy report
  constructor
  · have readable : policy.config.managerReference? ≠ none := by
      rw [read]
      exact Option.some_ne_none reference
    obtain ⟨events, logged, each⟩ := logs_secure readable session
    exact ⟨events, logged, fun member => each _ member rfl⟩
  · intro orderly unhindered
    obtain ⟨reported, _⟩ := secure_of_halves session policy
    obtain ⟨reconciled, said⟩ := Secure.reconcile_unhindered orderly unhindered policy
    have goesOn := Secure.keeps_reconcile Host.Continues.kept policy session
    have reliable : ∀ method, ¬ (session.act (Secure.reconcile policy)).2.host.Loses method :=
      fun method lost => unhindered (goesOn.loses lost).hindered
    obtain ⟨filled, saidToo⟩ := Secure.backfill_reliable reliable policy
    have isReport : report = _ := reported
    rw [isReport]
    refine ⟨reconciled, filled, ?_⟩
    dsimp only
    rw [said, saidToo]

/-- A store without the manager group, with an entity type and a table that refuses to be
filled. -/
def Store.groupless : Store :=
  let operations : List Operation :=
    [.addEntityType "sale.order", .addTable "sale_order" "owner_id" [none],
      .rejectTable "sale_order"]
  operations.foldl Operation.apply {}

/-- The group is missing and the table refuses, which is all that the run complains of. -/
theorem secure_of_valid_groupless :
    let config : Config := { backfill := { column := "owner_id" } }
    let session : Session := { host := { store := Store.groupless } }
    let ran := session.act (secure { classifier := .empty, config })
    config.validate = .ok () ∧ session.host.Orderly ∧ ¬ session.host.Hindered ∧
      LogEvent.malformedGroupReference ∉ ran.2.log ∧ ran.1.backfill.isSome ∧
      ran.1.errors =
        ("manager group multicompany_instead_of_multidatabase.group_company_manager " ++
          "not found; manager records skipped") ::
            Secure.failed config.backfill ran.1.backfill := by
  intro config session ran
  have valid : config.validate = .ok () := Config.validate_of_backfill (by decide) (by decide)
  have orderly : session.host.Orderly := Host.orderly_of_default Store.groupless
  have unhindered : ¬ session.host.Hindered := Host.unhindered_of_accepting rfl
  obtain ⟨_, _, _, _, _, runs⟩ := secure_of_valid valid
  obtain ⟨⟨events, logged, readable⟩, ends⟩ := runs .empty session
  obtain ⟨_, filled, errors⟩ := ends orderly unhindered
  have groupless : Secure.missing { classifier := .empty, config } Store.groupless =
      ["manager group multicompany_instead_of_multidatabase.group_company_manager " ++
        "not found; manager records skipped"] := by
    decide +kernel
  rw [groupless] at errors
  refine ⟨valid, orderly, unhindered, ?_, filled.mpr ⟨rfl, by decide⟩, errors⟩
  rw [logged]
  exact readable

/-- A column that is not blank but no plain name makes a valid configuration, and it stops the
backfill. -/
theorem secure_stopped_by_column :
    let config : Config := { backfill := { column := "company id" } }
    let group : Reference := ⟨"multicompany_instead_of_multidatabase", "group_company_manager"⟩
    let session : Session := { host := { store := (Store.addGroup {} group).2 } }
    let report := (session.act (secure { classifier := .empty, config })).1
    config.validate = .ok () ∧ session.host.Orderly ∧ ¬ session.host.Hindered ∧
      report.backfill = none ∧
      report.errors = ["backfill failed: invalid SQL identifier 'company id'"] := by
  intro config group session report
  have valid : config.validate = .ok () := Config.validate_of_backfill (by decide) (by decide)
  have orderly : session.host.Orderly := Host.orderly_of_default _
  have unhindered : ¬ session.host.Hindered := Host.unhindered_of_accepting rfl
  refine ⟨valid, orderly, unhindered, ?_, ?_⟩
  · decide +kernel
  · decide +kernel

end TenantGuard
