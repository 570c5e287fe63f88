import ScanCheck.Mock.Application
import ScanCheck.Client

namespace ScanCheck.Mock

def target? (origin url : String) : Option String :=
  if origin.toList.isPrefixOf url.toList then
    some (String.ofList (url.toList.drop origin.toList.length))
  else none

/-- A request as it arrives. An absent body is an empty one. -/
def Call.ofRequest (target : String) (request : Request) : Call :=
  { method := request.method.name, target, headers := request.headers,
    body := utf8 (request.body.getD "") }

def Answer.response (answer : Answer) : Response := ⟨answer.status, utf8 answer.body⟩

/-- Delivers requests to the mock services at an origin; nothing else can be reached. The text behind the origin is
assumed to arrive unchanged as the target: no URL is parsed on the way, and none is refused for its characters. -/
def transport [Refusal.Wording] (ids : Nat → String) (origin : String) : Transport Log := fun log request =>
  match target? origin request.url with
  | none => (.error (.transport request.url "connection refused"), log)
  | some target =>
    let (answer, log) := respond ids log (.ofRequest target request)
    (.ok answer.response, log)

end ScanCheck.Mock
