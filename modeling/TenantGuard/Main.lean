import Std.Time.Format
import Std.Time.Zoned
import TenantGuard.CommandLine.Invocation

/-!
# The program

Looks up the environment, the configuration file, the clock and a random number,
and prints the response.
-/

namespace TenantGuard.Main

open CommandLine

/-- Read what is at a path.  A path that leads nowhere is no error. -/
def readConfigFile (path : String) : IO ConfigFile := do
  try
    let text ← IO.FS.readFile path
    return .content text
  catch error =>
    match error with
    | .noFileOrDirectory .. => return .missing
    | .inappropriateType (some _) .. => return .missing
    | .inappropriateType none code details => return .unreadable s!"{details} (os error {code})"
    | other => return .unreadable (toString other)

/-- The time in the zone of Greenwich. -/
def now : IO String := do
  let instant ← Std.Time.Timestamp.now
  let wall := Std.Time.WallTime.ofTimestamp instant .zero
  return (Std.Time.PlainDateTime.ofWallTime wall).toLeanDateTimeString ++ "Z"

def randomDigits : IO Nat := do
  let halves ← (List.replicate 4 ()).mapM fun _ => IO.rand 0 (UInt32.size - 1)
  return halves.foldl (fun number half => number <<< 32 + half) 0

def printResponse (response : Response) : IO UInt32 := do
  let output ← IO.getStdout
  let problems ← IO.getStderr
  output.putStr response.output
  output.flush
  problems.putStr response.problem
  return response.status.toUInt32

def answer (request : Request) : IO Response := do
  match request with
  | .version => return Response.ofLines [versionLine]
  | .help => return Response.ofLines helpLines
  | .run invocation =>
      let file ← readConfigFile invocation.config
      let random ← randomDigits
      let started ← now
      let stamp := RunStamp.mk (RunStamp.randomId random) started started
      return invocation.respond stamp file

end TenantGuard.Main

def main (arguments : List String) : IO UInt32 := do
  let environment ← IO.getEnv "TENANTRY_CONFIG"
  match TenantGuard.CommandLine.Request.ofArguments environment arguments with
  | .ok request =>
      let response ← TenantGuard.Main.answer request
      TenantGuard.Main.printResponse response
  | .error error => TenantGuard.Main.printResponse error.response
