import TenantGuard.Config.Validity
import TenantGuard.Schema.Basic

/-!
# The schema of configurations

The schema is stricter than reading a configuration: it refuses fields that mean
nothing and numbers where texts belong.
-/

namespace TenantGuard.Config

/-- A text of any length. -/
def anyText : Schema := .text 0 none

/-- A text that is not empty. -/
def someText : Schema := .text 1 none

/-- An integer above zero. -/
def positive : Schema := .integer (some 1) none

/-- Two words with a dot between them. -/
def symbolicReference : TextForm where
  pattern := "^[A-Za-z0-9_]+\\.[A-Za-z0-9_]+$"
  accepts := isSymbolicReference

def databaseSchema : Schema :=
  .record
    [("host", anyText), ("port", .integer (some 1) (some 65535)), ("database", anyText),
      ("username", anyText), ("password", anyText), ("credentials_env", anyText),
      ("max_connections", positive)] []

def tenancySchema : Schema :=
  let fields : Schema := .record [("read", someText), ("edit", someText)] ["read", "edit"]
  .record
    [("default_field", someText), ("overrides", .dictionary fields),
      ("system_tenant", positive)] []

/-- The schema of a whole configuration. -/
def schema : Schema :=
  .record
    [("database", databaseSchema), ("tenancy", tenancySchema),
      ("manager_group", .text 0 (some symbolicReference)),
      ("external_ids", .record [("enabled", .boolean), ("module", anyText)] []),
      ("backfill", .record
        [("enabled", .boolean), ("column", someText), ("default_tenant", positive)] []),
      ("observability", .record [("log_filter", anyText)] [])] []

end TenantGuard.Config
