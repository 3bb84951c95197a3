import TenantGuard.Catalog.Classifier

/-!
# The built-in membership lists

Which entity types of the host store are not simply tenant scoped.
-/

namespace TenantGuard

namespace Classifier

def builtinTenants : List String := ["res.company", "res.users"]

def builtinTenantScopedReadShared : List String :=
  ["account.account.type", "ir.actions.act_url", "ir.actions.act_window",
    "ir.actions.act_window_close", "ir.actions.act_window.view", "ir.actions.actions",
    "ir.actions.client", "ir.actions.report", "ir.actions.server", "ir.actions.todo",
    "ir.attachment", "ir.filters", "ir.mail.server", "ir.model.data", "ir.translation",
    "ir.ui.menu", "ir.ui.view", "mail.template", "res.field", "res.field.selection_value",
    "stock.location", "uom.uom"]

def builtinGlobalReadShared : List String :=
  ["base.language.export", "base.language.import", "base.language.install",
    "base.module.uninstall", "base.module.update", "base.module.upgrade",
    "base.update.translations", "base_import.import", "ir.cron", "ir.logging", "ir.model",
    "ir.model.access", "ir.model.constraint", "ir.model.fields", "ir.model.relation",
    "ir.module.category", "ir.module.module", "ir.module.module.dependency",
    "ir.module.module.exclusion", "ir.rule", "ir.server.object.lines", "res.bank",
    "res.config", "res.config.installer", "res.config.settings", "res.country",
    "res.country.state", "res.currency", "res.groups", "res.lang", "res.partner.industry",
    "res.request.link", "account.payment.method", "account.tax.group",
    "change.password.user", "change.password.wizard", "l10n_no_payroll.tabelltrekk",
    "mail.activity.type", "payment.icon", "report.layout", "report.paperformat",
    "uom.category", "web_tour.tour", "wizard.ir.model.menu.create"]

def builtinNoAccess : List String := ["ir.config_parameter"]

/-- The classifier of the host store's own entity types. -/
def builtin : Classifier :=
  ((((empty.withMembers .tenants builtinTenants).withMembers .tenantScopedReadShared
    builtinTenantScopedReadShared).withMembers .globalReadShared
      builtinGlobalReadShared).withMembers .noAccess builtinNoAccess)

end Classifier

end TenantGuard
