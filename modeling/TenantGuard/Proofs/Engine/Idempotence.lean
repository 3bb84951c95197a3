import TenantGuard.Proofs.Engine.Convergence
import TenantGuard.Proofs.Engine.Securing

/-!
# Securing a store twice

A second run right after a first finds the catalog settled.  It changes no record,
counts no change, and reports the conflicts of the first run once more.
-/

namespace TenantGuard

/-- What the outcomes of settled records add up to. -/
theorem Summary.Adds.repeated {outcomes : List RecordOutcome} {summary again : Summary}
    (adds : Summary.Adds {} outcomes summary)
    (addsAgain : Summary.Adds {} (outcomes.map RecordOutcome.repeated) again) :
    again.created = 0 ∧ again.updated = 0 ∧ again.duplicatesRemoved = 0 ∧
      again.conflicts = summary.conflicts := by
  rw [addsAgain.created, addsAgain.updated, addsAgain.duplicatesRemoved, addsAgain.conflicts,
    adds.conflicts]
  clear adds addsAgain
  induction outcomes with
  | nil => exact ⟨rfl, rfl, rfl, rfl⟩
  | cons outcome outcomes ih =>
      obtain ⟨created, updated, removed, conflicts⟩ := ih
      cases outcome with
      | created | updated | unchanged =>
          refine ⟨created, updated, ?_, conflicts⟩
          simpa [RecordOutcome.repeated, RecordOutcome.removed] using removed
      | conflict conflicting =>
          refine ⟨created, updated, ?_, ?_⟩
          · simpa [RecordOutcome.repeated, RecordOutcome.removed] using removed
          · simpa [RecordOutcome.repeated, RecordOutcome.conflict?] using conflicts

/-- A pass over settled records changes none of them and repeats their outcomes. -/
theorem Secure.Passes.sameRecords {policy : Policy} {before : Host} {summary : Summary}
    {after origin : Store} {list : List SettledRecord}
    (passes : Passes policy before summary after) (unhindered : ¬ before.Hindered)
    (desired : list.map (·.1) = policy.allDesired before.store)
    (settled : ∀ entry ∈ list,
      entry.1.Settled (origin.matching entry.1) entry.2 (before.store.matching entry.1)) :
    before.store.SameRecords after ∧
      (summary.outcomes.flatMap (·.records)).map (·.outcome) = list.map (·.2.repeated) := by
  obtain ⟨opened, left, saved, goesOn, pass, same⟩ := passes.steps
  have sameOpened : before.store.SameRecords opened.store := by
    rw [saved]
    exact .opened _ _
  have settledOpened : ∀ entry ∈ list,
      entry.1.Settled (origin.matching entry.1) entry.2 (opened.store.matching entry.1) := by
    intro entry membership
    rw [sameOpened.matching]
    exact settled entry membership
  obtain ⟨unchanged, repeated⟩ := pass.sameRecords
    (pass.unfailed fun hindered => unhindered (goesOn.hindered hindered))
    (desired.trans (Policy.allDesired_congr goesOn.setting).symm) settledOpened
  exact ⟨(sameOpened.trans unchanged).trans same.symm.toSameRecords, repeated⟩

/-- A second pass right after a first finds every record as the first left it. -/
theorem Secure.Passes.again {policy : Policy} {before between : Host}
    {summary again : Summary} {after : Store} (passes : Passes policy before summary between.store)
    (passesAgain : Passes policy between again after) (continues : before.Continues between)
    (unhindered : ¬ before.Hindered) (formed : before.store.WellFormed) :
    between.store.SameRecords after ∧
      ∃ outcomes, Summary.Adds {} outcomes summary ∧
        Summary.Adds {} (outcomes.map RecordOutcome.repeated) again := by
  obtain ⟨opened, left, saved, goesOn, pass, same⟩ := passes.steps
  obtain ⟨list, desired, adds, settled⟩ := pass.settled
    (pass.unfailed fun hindered => unhindered (goesOn.hindered hindered))
    (goesOn.wellFormed formed)
  have desiredAgain : list.map (·.1) = policy.allDesired between.store := by
    rw [desired, Policy.allDesired_congr goesOn.setting, Policy.allDesired_congr continues.setting]
  have settledAgain : ∀ entry ∈ list, entry.1.Settled (opened.store.matching entry.1) entry.2
      (between.store.matching entry.1) := by
    intro entry membership
    rw [same.symm.matching]
    exact settled.settled entry membership
  obtain ⟨unchanged, repeated⟩ := passesAgain.sameRecords
    (fun hindered => unhindered (continues.hindered hindered)) desiredAgain settledAgain
  refine ⟨unchanged, list.map (·.2), adds, ?_⟩
  rw [List.map_map]
  obtain ⟨_, _, _, _, passAgain, _⟩ := passesAgain.steps
  have addsAgain := passAgain.adds
  rw [repeated] at addsAgain
  exact addsAgain

/-- On a host that nothing hinders, both of two runs report on their passes. -/
theorem Secure.passes_of_runs {policy : Policy} {session : Session}
    {first second : Report × Session} (orderly : session.host.Orderly)
    (unhindered : ¬ session.host.Hindered) (ran : session.act (secure policy) = first)
    (ranAgain : first.2.act (secure policy) = second) :
    session.host.Continues first.2.host ∧
      ∃ summary again, first.1.reconcile = some summary ∧ second.1.reconcile = some again ∧
        Passes policy session.host summary first.2.host.store ∧
        Passes policy first.2.host again second.2.host.store := by
  have continues := keeps_secure Host.Continues.kept policy session
  have runs := secure_yields orderly policy
  rw [ran] at continues
  rw [Session.Yields, ran] at runs
  have runsAgain := secure_yields (continues.orderly orderly) policy
  rw [Session.Yields, ranAgain] at runsAgain
  obtain ⟨summary, reported, passes⟩ := runs.passes unhindered
  obtain ⟨again, reportedAgain, passesAgain⟩ :=
    runsAgain.passes fun hindered => unhindered (continues.hindered hindered)
  exact ⟨continues, summary, again, reported, reportedAgain, passes, passesAgain⟩

/-- On a host that nothing hinders, the second of two runs leaves the records as the
first left them, and reports its conflicts. -/
theorem Secure.sameRecords_of_runs {policy : Policy} {session : Session}
    {first second : Report × Session} (orderly : session.host.Orderly)
    (unhindered : ¬ session.host.Hindered) (formed : session.host.store.WellFormed)
    (ran : session.act (secure policy) = first)
    (ranAgain : first.2.act (secure policy) = second) :
    first.2.host.store.SameRecords second.2.host.store ∧
      ∃ summary again, first.1.reconcile = some summary ∧ second.1.reconcile = some again ∧
        again.created = 0 ∧ again.updated = 0 ∧ again.duplicatesRemoved = 0 ∧
        again.conflicts = summary.conflicts := by
  obtain ⟨continues, summary, again, reported, reportedAgain, passes, passesAgain⟩ :=
    passes_of_runs orderly unhindered ran ranAgain
  obtain ⟨same, outcomes, adds, addsAgain⟩ :=
    passes.again passesAgain continues unhindered formed
  exact ⟨same, summary, again, reported, reportedAgain, adds.repeated addsAgain⟩

/-- Securing a store that refuses no write twice in a row changes no record the
second time: nothing is counted, every record keeps its id and its values, and the
second summary has the conflicts of the first and no changes. -/
theorem secure_secure (policy : Policy) {store : Store} (reached : store.Reachable)
    (accepting : store.rejectedWrites = []) :
    let first := Session.act { host := { store } } (secure policy)
    let second := first.2.act (secure policy)
    second.2.host.store.counts = first.2.host.store.counts ∧
      (∀ kind, second.2.host.store.data.records kind = first.2.host.store.data.records kind) ∧
      ∃ summary again, first.1.reconcile = some summary ∧ second.1.reconcile = some again ∧
        again.created = 0 ∧ again.updated = 0 ∧ again.duplicatesRemoved = 0 ∧
        again.conflicts = summary.conflicts := by
  intro first second
  have ran : Session.act { host := { store } } (secure policy) = first := rfl
  have ranAgain : first.2.act (secure policy) = second := rfl
  obtain ⟨same, reports⟩ := Secure.sameRecords_of_runs (Host.orderly_of_default store)
    (Host.unhindered_of_accepting accepting) reached.wellFormed ran ranAgain
  exact ⟨same.counts, same.records, reports⟩

theorem secure_secure_disputed :
    let policy : Policy := { classifier := .empty, config := {} }
    let first := Session.act { host := { store := Reconcile.disputed } } (secure policy)
    let second := first.2.act (secure policy)
    Reconcile.disputed.rejectedWrites = [] ∧
      second.2.host.store.counts = first.2.host.store.counts ∧
      (∀ kind, second.2.host.store.data.records kind = first.2.host.store.data.records kind) ∧
      ∃ summary again, first.1.reconcile = some summary ∧ second.1.reconcile = some again ∧
        again.created = 0 ∧ again.updated = 0 ∧ again.duplicatesRemoved = 0 ∧
        again.conflicts = summary.conflicts :=
  ⟨rfl, secure_secure { classifier := .empty, config := {} } Reconcile.disputed_reachable rfl⟩

end TenantGuard
