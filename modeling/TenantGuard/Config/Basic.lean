import TenantGuard.Store.Reference
import TenantGuard.Tenancy.Settings

/-!
# Configuration

Every section and every field has a default, so an empty configuration
reproduces the built-in catalog.
-/

namespace TenantGuard

structure DatabaseSettings where
  host : String := "localhost"
  port : Nat := 5432
  database : String := "odoo"
  username : String := "odoo"
  password : Option String := none
  /-- The environment variable that holds a whole connection string. -/
  credentialsVariable : Option String := none
  maxConnections : Nat := 2

/-- Whether and where generated records get external identifiers. -/
structure ExternalIdSettings where
  enabled : Bool := false
  module : String := "__multicompany_instead_of_multidatabase__"

/-- What to write where a tenant reference is missing. -/
structure BackfillSettings where
  enabled : Bool := true
  column : String := "company_id"
  defaultTenant : Int := 1

structure LogSettings where
  filter : String := "info"

structure Config where
  database : DatabaseSettings := {}
  tenancy : TenancySettings := {}
  /-- The symbolic reference of the group that sees every tenant. -/
  managerGroup : String := "multicompany_instead_of_multidatabase.group_company_manager"
  externalIds : ExternalIdSettings := {}
  backfill : BackfillSettings := {}
  log : LogSettings := {}

namespace Config

def managerReference? (config : Config) : Option Reference :=
  Reference.ofText? config.managerGroup

end Config

/-- The connection string of the database.  A variable that is set has the last
word. -/
def DatabaseSettings.connectionString (settings : DatabaseSettings)
    (environment : String → Option String) : String :=
  match settings.credentialsVariable.bind environment with
  | some url => url
  | none =>
      let address := s!"{settings.host}:{settings.port}/{settings.database}"
      match settings.password with
      | some password => s!"postgresql://{settings.username}:{password}@{address}"
      | none => s!"postgresql://{settings.username}@{address}"

end TenantGuard
