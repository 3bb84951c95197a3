import TenantGuard.Proofs.Engine.CleanReport

/-!
# Runs without a summary

A run whose report has no summary says that reconciliation was aborted.  Then nothing is
left of its pass, whichever calls were lost or refused on the way, except in one case: a
pass that came to its end stays, although the report does not show it, if closing its
savepoint is the call that fails.
-/

namespace TenantGuard

namespace Secure

/-- The report of a run tells of its first half, and the second leaves the records and
external identifiers as they are. -/
theorem secure_halves {session : Session} (policy : Policy) :
    session.Yields (secure policy) fun report after =>
      report.reconcile = (session.act (reconcile policy)).1.1 ∧
        (session.act (reconcile policy)).2.host.store.SameEntries after.host.store := by
  obtain ⟨reported, sameHost⟩ := secure_of_halves session policy
  rw [Session.Yields, reported, sameHost]
  exact ⟨rfl, (backfill_yields policy).sameEntries⟩

variable {policy : Policy} {before after : Host}

/-- A first half without a summary was aborted. -/
theorem Reconciliation.aborts {result : Option Summary × List String}
    (reconciles : Reconciliation policy before result after) (missing : result.1 = none) :
    Aborts policy before after := by
  cases reconciles with
  | passed | groupless => cases missing
  | aborted _ aborts => exact aborts

end Secure

/-- Whichever calls are lost or refused, a run without a summary leaves the records and
external identifiers as they were, unless the last call of its first half that failed was
to close a savepoint: then the whole pass stays. -/
theorem secure_aborted (policy : Policy) {session : Session} (orderly : session.host.Orderly)
    (aborted : (session.act (secure policy)).1.reconcile = none) :
    let passed := (session.act (Secure.reconcile policy)).2.host
    let after := (session.act (secure policy)).2.host.store
    (passed.failures.head? ≠ some .releaseSavepoint →
      (∀ kind, after.data.records kind = session.host.store.data.records kind) ∧
        after.data.externalIds = session.host.store.data.externalIds) ∧
    (passed.failures.head? = some .releaseSavepoint →
      ∃ summary, Secure.Passes policy session.host summary after) := by
  intro passed after
  obtain ⟨reported, same⟩ : _ ∧ passed.store.SameEntries after := Secure.secure_halves policy
  have reconciles : Secure.Reconciliation policy session.host _ passed :=
    Secure.reconcile_yields orderly policy
  cases reconciles.aborts (reported.symm.trans aborted) with
  | untouched data closed =>
      refine ⟨fun _ => ⟨fun kind => ?_, ?_⟩, fun failed => absurd failed closed⟩
      · rw [same.records, data]
      · rw [same.externalIds, data]
  | unclosed passes failed =>
      exact ⟨fun closed => absurd failed closed, fun _ => ⟨_, passes.congr same⟩⟩

/-- The founded store behind a host that loses one call of a method. -/
def Store.foundedBehind (method : Method) (earlier : Nat) : Host where
  store := founded
  schedule := Schedule.none.arm method earlier false (.unreachable ["connection lost"])

/-- Only calls of the method are lost. -/
theorem Store.foundedBehind_loses {method other : Method} {earlier : Nat}
    (lost : (foundedBehind method earlier).Loses other) : other = method := by
  obtain ⟨journal, error, armed⟩ := lost
  by_cases same : other = method
  · exact same
  · simp [foundedBehind, Schedule.arm, Schedule.none, same] at armed

theorem secure_aborted_ungrouped :
    let policy : Policy := { classifier := .empty, config := {} }
    let session : Session := { host := Store.foundedBehind .resolveGroup 0 }
    let after := (session.act (secure policy)).2.host.store
    (session.act (secure policy)).1.reconcile = none ∧
      (∀ kind, after.data.records kind = Store.founded.data.records kind) ∧
      after.data.externalIds = Store.founded.data.externalIds := by
  intro policy session after
  have aborted : (session.act (secure policy)).1.reconcile = none := by decide +kernel
  exact ⟨aborted, (secure_aborted policy (fun _ => .refl _) aborted).1 (by decide +kernel)⟩

/-- Closing the savepoint of the pass fails: the report has no summary, and the rules and the
access grant that the pass created stay. -/
theorem secure_aborted_unclosed :
    let policy : Policy := { classifier := .empty, config := {} }
    let session : Session := { host := Store.foundedBehind .releaseSavepoint 1 }
    let after := (session.act (secure policy)).2.host.store
    Store.founded.Reachable ∧
      ¬ session.host.Loses .rollbackToSavepoint ∧
      (session.act (secure policy)).1.reconcile = none ∧
      (Store.founded.records .rule).map (·.1) = [] ∧ (after.records .rule).map (·.1) = [3, 5] ∧
      (Store.founded.records .accessGrant).map (·.1) = [] ∧
      (after.records .accessGrant).map (·.1) = [4] := by
  intro policy session after
  refine ⟨Store.founded_reachable, ?_, by decide +kernel, by decide +kernel, by decide +kernel,
    by decide +kernel, by decide +kernel⟩
  intro lost
  cases Store.foundedBehind_loses lost

end TenantGuard
