import TenantGuard.Main
import TenantGuard.Proofs.Catalog.Domains
import TenantGuard.Proofs.Catalog.Isolation
import TenantGuard.Proofs.Catalog.Membership
import TenantGuard.Proofs.Catalog.SelfCheck
import TenantGuard.Proofs.CommandLine.Offline
import TenantGuard.Proofs.Engine.Atomicity
import TenantGuard.Proofs.Engine.Auditing
import TenantGuard.Proofs.Engine.Bindings
import TenantGuard.Proofs.Engine.Collisions
import TenantGuard.Proofs.Engine.Effect
import TenantGuard.Proofs.Engine.FillingReport
import TenantGuard.Proofs.Engine.Idempotence
import TenantGuard.Proofs.Engine.Independence
import TenantGuard.Proofs.Engine.Integrity
import TenantGuard.Proofs.Engine.Reconfiguration
import TenantGuard.Proofs.Engine.Registering
import TenantGuard.Proofs.Engine.Sparing
import TenantGuard.Proofs.Engine.Unwinding
import TenantGuard.Proofs.Engine.Valid
import TenantGuard.Proofs.Predicate.Agreement
import TenantGuard.Proofs.Predicate.Meaning
import TenantGuard.Proofs.Predicate.Uniformity
import TenantGuard.Proofs.Record.Exclusivity
import TenantGuard.Proofs.Sql.Storage
import TenantGuard.Proofs.Store.Fresh
import TenantGuard.Proofs.Store.Refusing
import TenantGuard.Proofs.Store.Restoring
