import TenantGuard.Catalog.Builtin
import TenantGuard.Catalog.Finding
import TenantGuard.CommandLine.ConfigFile
import TenantGuard.Config.Schema
import TenantGuard.Yaml.Value

/-!
# The check of a configuration file

The file is read as a value and held against the schema; it is read as a
configuration; and the catalog is checked with its tenant attributes.  A text
that is no document is reported by both readings, and the catalog is checked
only with a valid configuration.
-/

namespace TenantGuard.CommandLine

/-- Which part of the check a finding comes from. -/
inductive Category where
  | catalog
  | config
  | schema
  | yaml
  deriving DecidableEq, Repr

/-- The name of a category.  Findings are listed in the order of these names. -/
def Category.name : Category → String
  | .catalog => "catalog"
  | .config => "config"
  | .schema => "json-schema"
  | .yaml => "yaml"

structure CheckFinding where
  severity : Severity
  category : Category
  message : String
  /-- Where in the file it is, if that is known. -/
  location : Option String := none
  deriving DecidableEq, Repr

namespace CheckFinding

def ofSchema (finding : SchemaFinding) : CheckFinding where
  severity := .error
  category := .schema
  message := finding.fault.message
  location := some finding.location

def ofCatalog (finding : CatalogFinding) : CheckFinding where
  severity := finding.severity
  category := .catalog
  message := finding.text
  location := finding.entity.map fun entity => "/tenancy/overrides/" ++ entity

/-- Hold a document against the schema.  An empty one needs no check. -/
def ofValue (content : String) : Except Complaint (List CheckFinding) :=
  match Yaml.Value.ofText content with
  | .error fault => .ok [{ severity := .error, category := .yaml, message := fault.detail }]
  | .ok .null => .ok []
  | .ok value =>
      match value.toJson with
      | .error fault => .error ⟨"Configuration is not JSON-compatible", [fault.message]⟩
      | .ok json => .ok ((Config.schema.findings [] json).map ofSchema)

/-- The findings of the catalog under a configuration. -/
def ofConfig (config : Config) : List CheckFinding :=
  (CatalogFinding.all Classifier.builtin config.tenancy).map ofCatalog

/-- All findings of a configuration file. -/
def ofFile (path : String) : ConfigFile → Except Complaint (List CheckFinding)
  | .missing => .ok (ofConfig {})
  | .unreadable reason => .error ⟨s!"Failed to read {path}", [reason]⟩
  | .content text => do
      let findings ← ofValue text
      match Config.ofText text with
      | .ok config => return findings ++ ofConfig config
      | .error fault =>
          let finding := CheckFinding.mk .error .config fault.message none
          return findings ++ [finding]

def isError (finding : CheckFinding) : Bool :=
  finding.severity = .error

def line (finding : CheckFinding) : String :=
  let location := (finding.location.map fun location => s!" [{location}]").getD ""
  s!"  {finding.severity.label} [{finding.category.name}]{location}: {finding.message}"

/-- Errors come first, and then the categories by name. -/
def precedes (a b : CheckFinding) : Bool :=
  if a.severity = b.severity then a.category.name ≤ b.category.name
  else a.severity = .error

def json (finding : CheckFinding) : Json :=
  let severity := match finding.severity with
    | .warning => "warning"
    | .error => "error"
  .object <|
    [("severity", .text severity), ("category", .text finding.category.name),
      ("message", .text finding.message)] ++ Json.field? "location" .text finding.location

end CheckFinding

namespace Check

def errorCount (findings : List CheckFinding) : Nat :=
  findings.countP CheckFinding.isError

/-- The lines of a check for people. -/
def lines (path : String) (findings : List CheckFinding) : List String :=
  let errors := errorCount findings
  let warnings := findings.length - errors
  let summary :=
    if findings.isEmpty then "All checks passed."
    else s!"Summary: {errors} error(s), {warnings} warning(s)"
  s!"Checking {path}" ::
    (findings.mergeSort CheckFinding.precedes).map CheckFinding.line ++ [summary]

/-- The findings as JSON. -/
def json (findings : List CheckFinding) : Json :=
  .object [("findings", .list (findings.map CheckFinding.json))]

/-- Check a file.  Errors among the findings make the command fail after they
have been printed. -/
def respond (path : String) (file : ConfigFile) (asJson : Bool) : Response :=
  match CheckFinding.ofFile path file with
  | .error complaint => ({} : Response).complain complaint
  | .ok findings =>
      let printed :=
        Response.ofLines (if asJson then [(json findings).pretty] else lines path findings)
      let errors := errorCount findings
      if errors = 0 then printed
      else printed.complain ⟨s!"check failed with {errors} error(s)", []⟩

end Check

end TenantGuard.CommandLine
