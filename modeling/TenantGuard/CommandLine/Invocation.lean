import TenantGuard.CommandLine.Arguments
import TenantGuard.CommandLine.Check
import TenantGuard.CommandLine.Offline
import TenantGuard.CommandLine.Preview

/-!
# Answering a command line

Every command but the check needs a valid configuration.  A store that is not in
memory cannot be reached from here.
-/

namespace TenantGuard.CommandLine

namespace Invocation

/-- Carry out a command under a loaded configuration. -/
def carryOut (stamp : RunStamp) (config : Config) (path : String) (file : ConfigFile) :
    Command → Response
  | .secure [] _ _ =>
      ({} : Response).complain ⟨"Failed to connect to the database", ["only stores in memory can be reached"]⟩
  | .secure entities _ json => Offline.respond stamp config entities json
  | .compile entity json => Preview.respond config entity json
  | .classify entities => Response.ofLines (Preview.classLines entities)
  | .check json => Check.respond path file json

/-- The response to an invocation, given what is at the path of its configuration
file. -/
def respond (stamp : RunStamp) (file : ConfigFile) (invocation : Invocation) : Response :=
  match file.load invocation.config, invocation.command with
  | _, .check json => Check.respond invocation.config file json
  | .ok config, command => carryOut stamp config invocation.config file command
  | .error complaint, _ => ({} : Response).complain complaint

end Invocation

/-- The name and the version of the program. -/
def versionLine : String := "tenantry 0.1.0"

def helpLines : List String :=
  ["Tenant isolation rules for a shared record store", "",
    "Usage: tenantry [OPTIONS] <COMMAND>", "",
    "Commands:",
    "  secure    Reconcile generated rules on every entity type, then fill tenant references",
    "  compile   Show the rules generated for one entity type",
    "  classify  Show the security class of entity types",
    "  check     Validate the configuration file and the rule catalog",
    "  help      Print this message", "",
    "Options:",
    "  -c, --config <CONFIG>  Configuration file [default: tenantry.yaml]",
    "  -h, --help             Print help",
    "  -V, --version          Print version"]

/-- The response to a command line that cannot be used. -/
def UsageError.response (error : UsageError) : Response where
  status := 2
  problem := s!"error: {error.message}\n\nFor more information, try '--help'.\n"

end TenantGuard.CommandLine
