import ScanCheck.Client

namespace ScanCheck

/-- A prepared answer: a response, or the message of a transport error. -/
inductive Reply
  | respond (response : Response)
  | fail (message : String)
deriving DecidableEq, Repr

def Reply.answer (url : String) : Reply → Except ClientError Response
  | .respond response => .ok response
  | .fail message => .error (.transport url message)

abbrev Script := List Reply

/-- Answers every request with the next reply, and fails when none is left. -/
def Script.transport : Transport Script
  | [], request => (.error (.transport request.url "script exhausted"), [])
  | reply :: script, request => (reply.answer request.url, script)

def unreachable {σ : Type} : Transport σ := fun state request =>
  (.error (.transport request.url "network is unreachable"), state)

end ScanCheck
