import TenantGuard.Filter.Basic
import TenantGuard.Predicate.Expr

/-!
# From expressions to filters

An atom says nothing about attribute names or tenant ids.  Both come from the
scope in which the predicate is used, and each atom then stands for a fixed
condition or, in the case of the selected tenant's hierarchy, for three.
-/

namespace TenantGuard

open Predicate

namespace Filter

/-- What the atoms of a predicate refer to on one entity type. -/
structure Scope where
  tenantField : String
  /-- The id of the tenant that owns shared data. -/
  systemTenant : Int
  deriving DecidableEq, Repr

def Scope.leaf (scope : Scope) (relation : Relation) (value : Value) : Filter :=
  .condition ⟨scope.tenantField, relation, value⟩

def ofAtom (scope : Scope) : Atom → Filter
  | .unassigned => scope.leaf .eq (.bool false)
  | .allowedTenants => scope.leaf .isIn .allowedTenants
  | .selectedTenant => scope.leaf .eq .selectedTenant
  | .selectedTenantHierarchy =>
      .combine .any
        [scope.leaf .eq .selectedTenant,
          scope.leaf .parentOf .selectedTenant,
          scope.leaf .childOf .selectedTenant]
  | .systemTenant => scope.leaf .eq (.int scope.systemTenant)

mutual

/-- The filter that an expression stands for. -/
def ofExpr (scope : Scope) : Expr → Filter
  | .atom atom => ofAtom scope atom
  | .group combinator operands => .combine combinator (ofExprs scope operands)

def ofExprs (scope : Scope) : List Expr → List Filter
  | [] => []
  | expr :: rest => ofExpr scope expr :: ofExprs scope rest

end

end Filter

end TenantGuard
