import TenantGuard.Store.Call

/-!
# The host of the store

Calls travel to the store through its host, and a call may be lost on the way:
it then fails without reaching the store.  Which calls are lost is a schedule,
which may depend on all the calls made before.  The host also settles in which
order a search lists its ids.
-/

namespace TenantGuard

/-- Whether a call of a method is lost, and with which error, given the methods
called before it, latest first. -/
abbrev Schedule := List Method → Method → Option StoreError

namespace Schedule

def none : Schedule := fun _ _ => .none

/-- Lose a call of `method` as well: the one that comes after `earlier` calls of
it or, with `always`, also every later one. -/
def arm (schedule : Schedule) (method : Method) (earlier : Nat) (always : Bool)
    (error : StoreError) : Schedule :=
  -- where both lose a call, the error of the first schedule stands
  fun before called =>
    schedule before called <|>
      if called = method ∧
          (before.count method = earlier ∨ (always ∧ earlier ≤ before.count method)) then
        some error
      else
        .none

end Schedule

/-- The host remembers the methods called and those that failed, latest first. -/
structure Host where
  store : Store := {}
  journal : List Method := []
  failures : List Method := []
  schedule : Schedule := .none
  arrange : List RecordId → List RecordId := id

namespace Host

def arranged {α : Type} (host : Host) : Call α → α → α
  | .search _ _, ids => host.arrange ids
  | _, answer => answer

/-- A call fails if it is lost or if the store answers with an error. -/
def perform {α : Type} (host : Host) (call : Call α) : Except StoreError α × Host :=
  -- the journal remembers the call whether it is lost or not
  let called := { host with journal := call.method :: host.journal }
  let failed := { called with failures := call.method :: host.failures }
  match host.schedule host.journal call.method with
  | some error => (.error error, failed)
  | none =>
      match call.run host.store with
      | (.ok answer, store) => (.ok (host.arranged call answer), { called with store })
      | (.error error, store) => (.error error, { failed with store })

end Host

end TenantGuard
