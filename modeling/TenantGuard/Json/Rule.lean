import TenantGuard.Catalog.Rule
import TenantGuard.Json.Basic

/-!
# Rules and filters as JSON

A value with a case of its own becomes an object with the name of the case as
its only field, or just the name where the case carries nothing.
-/

namespace TenantGuard

open Predicate (Combinator)

def Json.combinator : Combinator → Json
  | .all => .text "and"
  | .any => .text "or"

namespace Filter

def Relation.json : Relation → Json
  | .eq => .text "eq"
  | .isIn => .text "in"
  | .parentOf => .text "parent_of"
  | .childOf => .text "child_of"

def Value.json : Value → Json
  | .allowedTenants => .text "allowed_tenants"
  | .selectedTenant => .text "selected_tenant"
  | .bool value => .object [("bool", .bool value)]
  | .int value => .object [("int", .int value)]

def Condition.json (condition : Condition) : Json :=
  .object
    [("field", .text condition.field), ("relation", condition.relation.json),
      ("value", condition.value.json)]

mutual

def json : Filter → Json
  | .always => .text "always"
  | .condition comparison => .object [("condition", comparison.json)]
  | .combine combinator operands =>
      .object
        [("combine", .object
          [("combinator", .combinator combinator), ("operands", .list (jsonAll operands))])]

def jsonAll : List Filter → List Json
  | [] => []
  | filter :: rest => filter.json :: jsonAll rest

end

end Filter

def Permissions.json (permissions : Permissions) : Json :=
  .object
    [("read", .bool permissions.read), ("write", .bool permissions.write),
      ("create", .bool permissions.create), ("unlink", .bool permissions.unlink)]

def Rule.json (rule : Rule) : Json :=
  .object
    [("entity", .text rule.entity), ("class", .text rule.securityClass.name),
      ("mode", .text rule.mode.stem), ("permissions", rule.permissions.json),
      ("tenant_field", .text rule.tenantField), ("filter", rule.filter.json)]

end TenantGuard
