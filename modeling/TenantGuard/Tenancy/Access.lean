/-!
# Security classes, access modes and permissions

Every entity type belongs to one security class, and the class decides which
rules it gets.  A rule governs reading, editing or both, and its mode decides
which of the four operations it grants.  The labels below are part of the names
of rules that stores already hold, so they never change.
-/

namespace TenantGuard

/-- How the records of an entity type are shared between tenants. -/
inductive SecurityClass where
  /-- The tenants themselves, and the actors. -/
  | tenants
  /-- Partners: everybody reads those that have no tenant. -/
  | sharedPartner
  /-- Reading and editing stay within the selected tenant's hierarchy. -/
  | tenantScoped
  /-- Like the above, but everybody reads what the system tenant owns. -/
  | tenantScopedReadShared
  /-- Everybody reads; only the system tenant edits. -/
  | globalReadShared
  /-- Only the system tenant reads and edits. -/
  | noAccess
  deriving DecidableEq, Repr

namespace SecurityClass

/-- Every class, in the order in which classes are checked. -/
def all : List SecurityClass :=
  [.tenants, .sharedPartner, .tenantScoped, .tenantScopedReadShared, .globalReadShared,
    .noAccess]

@[simp] theorem mem_all (securityClass : SecurityClass) : securityClass ∈ all := by
  cases securityClass <;> simp [all]

def name : SecurityClass → String
  | .tenants => "tenants"
  | .sharedPartner => "shared_partner"
  | .tenantScoped => "tenant_scoped"
  | .tenantScopedReadShared => "tenant_scoped_read_shared"
  | .globalReadShared => "global_read_shared"
  | .noAccess => "no_access"

def ruleLabel : SecurityClass → String
  | .tenants => "companies_model"
  | .sharedPartner => "partner_model"
  | .tenantScoped => "company_model"
  | .tenantScopedReadShared => "company_read_system_model"
  | .globalReadShared => "read_system_model"
  | .noAccess => "no_access_model"

end SecurityClass

structure Permissions where
  read : Bool
  write : Bool
  create : Bool
  unlink : Bool
  deriving DecidableEq, Repr

namespace Permissions

def readOnly : Permissions := ⟨true, false, false, false⟩

def editOnly : Permissions := ⟨false, true, true, true⟩

def full : Permissions := ⟨true, true, true, true⟩

end Permissions

inductive AccessMode where
  | read
  | edit
  | readAndEdit
  deriving DecidableEq, Repr

namespace AccessMode

/-- The mode's part of an external identifier, and its name. -/
def stem : AccessMode → String
  | .read => "read"
  | .edit => "edit"
  | .readAndEdit => "read_and_edit"

def ruleLabel : AccessMode → String
  | .read => "read_if"
  | .edit => "edit_if"
  | .readAndEdit => "read_and_edit_if"

def permissions : AccessMode → Permissions
  | .read => .readOnly
  | .edit => .editOnly
  | .readAndEdit => .full

def reads : AccessMode → Bool
  | .read | .readAndEdit => true
  | .edit => false

end AccessMode

end TenantGuard
