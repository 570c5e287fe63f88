import ScanCheck.Mock.Call
import ScanCheck.Mock.Route

/-!
# The mock services

Stand-ins for the two services. An accepted submission is appended to a log, under a name of its own, and
given back; the log can be listed. What a call demands is decided without the log, and only then carried
out on it.
-/

namespace ScanCheck.Mock

/-- A component as the services declare it for themselves. -/
structure Component where
  name : String
  kind : String
  branch : String
  url : String
deriving DecidableEq, Repr

def Component.codec : Codec Component :=
  .record
    (.cons "name" .string none (.cons "type" .string none
      (.cons "branch" .string none (.cons "url" .string none .nil))))
    (fun (name, kind, branch, url, ()) => { name, kind, branch, url })
    (fun component => (component.name, component.kind, component.branch, component.url, ()))

/-- What the malware scanner reads of a call. -/
structure ScanRequest where
  project : String
  components : List Component
deriving DecidableEq, Repr

def ScanRequest.codec : Codec ScanRequest :=
  .record (.cons "project" .string none (.cons "components" Component.codec.list none .nil))
    (fun (project, components, ()) => { project, components })
    (fun request => (request.project, request.components, ()))

/-- What the static analysis reads of a call. -/
structure SubmitRequest where
  project : String
  component : String
  url : String
  kwScanLink : String
deriving DecidableEq, Repr

def SubmitRequest.codec : Codec SubmitRequest :=
  .record
    (.cons "project" .string none (.cons "component" .string none
      (.cons "url" .string none (.cons "kw_scan_link" .string none .nil))))
    (fun (project, component, url, kwScanLink, ()) => { project, component, url, kwScanLink })
    (fun request => (request.project, request.component, request.url, request.kwScanLink, ()))

structure Submission where
  id : String
  service : String
  username : String
  project : String
deriving DecidableEq, Repr

def Submission.codec : Codec Submission :=
  .record
    (.cons "id" .string none (.cons "service" .string none
      (.cons "username" .string none (.cons "project" .string none .nil))))
    (fun (id, service, username, project, ()) => { id, service, username, project })
    (fun submission => (submission.id, submission.service, submission.username, submission.project, ()))

structure Echo where
  method : String
  contentType : Option String
  authorization : Option String
  body : String
deriving DecidableEq, Repr

def Echo.codec : Codec Echo :=
  .record
    (.cons "method" .string none (.cons "content_type" Codec.string.optional (some none)
      (.cons "authorization" Codec.string.optional (some none) (.cons "body" .string none .nil))))
    (fun (method, contentType, authorization, body, ()) => { method, contentType, authorization, body })
    (fun echo => (echo.method, echo.contentType, echo.authorization, echo.body, ()))

abbrev Log := List Submission

inductive Demand
  | record (service username project : String)
  | list
  | answer (answer : Answer)
deriving DecidableEq, Repr

def demandScan (segment : List Char) (call : Call) : Except Refusal Demand := do
  let username ← readUsername segment
  let request ← call.payload ScanRequest.codec
  if request.components.isEmpty then .ok (.answer (.plain 400 "components must not be empty"))
  else .ok (.record "clamav" username request.project)

def demandAnalysis (segment : List Char) (call : Call) : Except Refusal Demand := do
  let username ← readUsername segment
  let request ← call.payload SubmitRequest.codec
  if request.component = "" ∨ request.url = "" then
    .ok (.answer (.plain 400 "component and url are required"))
  else .ok (.record "klocwork" username request.project)

def echo (call : Call) : Except Refusal Echo := do
  let body ← call.text
  .ok { method := call.method, contentType := call.field? "content-type",
        authorization := call.field? "authorization", body }

def answerProbe (call : Call) : Probe → Except Refusal Answer
  | .ok => .ok (.json (Json.object [("ok", .flag true)]).compact)
  | .missing => .ok (.plain 404 "not found")
  | .notJson => .ok (.plain 200 "not-json")
  | .echo => (echo call).map fun seen => .json (Echo.codec.text seen)

def Route.demand (call : Call) : Route → Except Refusal Demand
  | .scan segment => demandScan segment call
  | .analysis segment => demandAnalysis segment call
  | .submissions => .ok .list
  | .probe asked => (answerProbe call asked).map .answer

def wrongMethod (methods : List String) : Answer :=
  { Answer.bare 405 with allow := some (",".intercalate methods) }

/-- What a call demands. The method is checked before anything else is read. -/
def demand [Refusal.Wording] (call : Call) : Demand :=
  match Route.find? call.target with
  | none => .answer (.bare 404)
  | some route =>
    match route.methods.filter fun methods => !methods.contains call.method with
    | some methods => .answer (wrongMethod methods)
    | none =>
      match route.demand call with
      | .ok demand => demand
      | .error refusal => .answer (.refuse refusal (Refusal.Wording.words refusal call))

/-- Carries a demand out. `ids` names the submissions by the number of those before them. -/
def Demand.perform (ids : Nat → String) (log : Log) : Demand → Answer × Log
  | .record service username project =>
    let submission := { id := ids log.length, service, username, project }
    (.json (Submission.codec.text submission), log ++ [submission])
  | .list => (.json (Submission.codec.list.text log), log)
  | .answer given => (given, log)

def respond [Refusal.Wording] (ids : Nat → String) (log : Log) (call : Call) : Answer × Log :=
  let (answer, log) := (demand call).perform ids log
  (answer.seenBy call.method, log)

def respondAll [Refusal.Wording] (ids : Nat → String) : Log → List Call → List Answer × Log
  | log, [] => ([], log)
  | log, call :: calls =>
    let (answer, log) := respond ids log call
    let (answers, log) := respondAll ids log calls
    (answer :: answers, log)

end ScanCheck.Mock
