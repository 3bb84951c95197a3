/-!
# Responses of the program

A command that succeeds prints its result.  One that fails says why, with the
causes behind the reason indented and, if there are several, numbered.
-/

namespace TenantGuard.CommandLine

/-- What the program prints, and with which status it ends. -/
structure Response where
  status : Nat := 0
  output : String := ""
  problem : String := ""
  deriving DecidableEq, Repr

/-- A reason and the causes behind it, the nearest first. -/
structure Complaint where
  reason : String
  causes : List String := []
  deriving DecidableEq, Repr

namespace Complaint

/-- A text whose lines after the first are indented. -/
def indented (indent text : String) : String :=
  String.join (text.toList.map fun c => if c = '\n' then "\n" ++ indent else c.toString)

def causeLines : List String → List String
  | [] => []
  | [cause] => ["    " ++ indented "    " cause]
  | causes => causes.zipIdx.map fun (cause, number) =>
      s!"    {number}: " ++ indented "       " cause

def text (complaint : Complaint) : String :=
  let lines := causeLines complaint.causes
  let behind := if lines.isEmpty then "" else "\n\nCaused by:\n" ++ "\n".intercalate lines
  s!"Error: {complaint.reason}{behind}\n"

end Complaint

namespace Response

def ofLines (lines : List String) : Response :=
  { output := String.join (lines.map (· ++ "\n")) }

def complain (response : Response) (complaint : Complaint) : Response :=
  { response with status := 1, problem := complaint.text }

end Response

end TenantGuard.CommandLine
