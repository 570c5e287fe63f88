import ScanCheck.Http.Target

namespace ScanCheck.Mock

/-- The endpoints that answer every call in the same way, and the one that tells what it got. -/
inductive Probe
  | ok
  | missing
  | notJson
  | echo
deriving DecidableEq, Repr

inductive Route
  /-- Submissions to the malware scanner, with the segment of the username. -/
  | scan (segment : List Char)
  /-- Submissions to the static analysis, with the segment of the username. -/
  | analysis (segment : List Char)
  | submissions
  | probe (probe : Probe)
deriving DecidableEq, Repr

namespace Route

def ofPath (path : List (List Char)) : Option Route :=
  match path.map String.ofList with
  | ["", "rest", "clamav", "scan", segment, ""] => some (.scan segment.toList)
  | ["", "rest", "klocwork", "submit", segment, ""] => some (.analysis segment.toList)
  | ["", "rest", "submissions"] => some .submissions
  | ["", "probe", "ok"] => some (.probe .ok)
  | ["", "probe", "missing"] => some (.probe .missing)
  | ["", "probe", "not-json"] => some (.probe .notJson)
  | ["", "probe", "echo"] => some (.probe .echo)
  | _ => none

def find? (target : String) : Option Route := ofPath (Target.path target.toList)

def methods : Route → Option (List String)
  | .scan _ | .analysis _ => some ["POST"]
  | .submissions => some ["GET", "HEAD"]
  | .probe _ => none

end Route

end ScanCheck.Mock
