import TenantGuard.CommandLine.Response
import TenantGuard.Config.Document

/-!
# The configuration file

A file that does not exist stands for a configuration with all defaults.  One
that cannot be read or holds no valid configuration stops every command but the
check, which reports what is wrong.
-/

namespace TenantGuard.CommandLine

/-- What was found at the path of the configuration file. -/
inductive ConfigFile where
  | missing
  | unreadable (reason : String)
  | content (text : String)
  deriving DecidableEq, Repr

namespace ConfigFile

/-- The causes behind a faulty configuration.  A fault of the document has one
of its own. -/
def causes : ConfigFault → List String
  | .document fault => [fault.message, fault.detail]
  | .settings error => [error.message]

/-- Load the configuration at a path. -/
def load (path : String) : ConfigFile → Except Complaint Config
  | .missing => .ok {}
  | .unreadable reason => .error ⟨s!"Failed to load {path}", [s!"IO error: {reason}", reason]⟩
  | .content text =>
      match Config.ofText text with
      | .ok config => .ok config
      | .error fault => .error ⟨s!"Failed to load {path}", causes fault⟩

end ConfigFile

end TenantGuard.CommandLine
