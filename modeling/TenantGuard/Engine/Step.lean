import TenantGuard.Catalog.Classifier
import TenantGuard.Config.Basic
import TenantGuard.Engine.Trail
import TenantGuard.Store.Host

/-!
# Steps of the engine

The engine works on a session: the host of the store, the audit trail and the
log.  An action always comes to an end.  A step may stop with an error instead;
what it did to the session until then stays.
-/

namespace TenantGuard

structure Session where
  host : Host := {}
  trail : List AuditEvent := []
  log : List LogEvent := []

inductive EngineError where
  | store (cause : StoreError)
  | invalidIdentifier (name : String)
  deriving DecidableEq, Repr

def EngineError.message : EngineError → String
  | .store cause => s!"store error: {cause.message}"
  | .invalidIdentifier name => s!"invalid SQL identifier '{name}'"

/-- What decides about the records: who belongs to which class, and how the
tenancy is configured. -/
structure Policy where
  classifier : Classifier
  config : Config

abbrev Action (α : Type) := StateM Session α

abbrev Step (α : Type) := ExceptT EngineError (StateM Session) α

namespace Action

def record (event : AuditEvent) : Action Unit :=
  modify fun session => { session with trail := session.trail ++ [event] }

def warn (event : LogEvent) : Action Unit :=
  modify fun session => { session with log := session.log ++ [event] }

end Action

namespace Step

def call {α : Type} (request : Call α) : Step α :=
  ExceptT.mk fun session =>
    let (answer, host) := session.host.perform request
    (answer.mapError .store, { session with host })

/-- Carry out a step to its end or its error, and go on either way. -/
def attempt {α : Type} (step : Step α) : Step (Except EngineError α) :=
  ExceptT.lift step.run

end Step

def Action.attempt {α : Type} (step : Step α) : Action (Except EngineError α) :=
  step.run

end TenantGuard
