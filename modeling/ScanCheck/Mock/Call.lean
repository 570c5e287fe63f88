import ScanCheck.Http.MediaType
import ScanCheck.Http.Target
import ScanCheck.Codec.Record
import ScanCheck.Http.Message

namespace ScanCheck.Mock

/-- A request as it arrives. Its method can be any token. -/
structure Call where
  method : String
  target : String
  headers : List Header
  body : Bytes
deriving DecidableEq, Repr

inductive Refusal
  | username
  | mediaType
  | oversized
  | payload (fault : Json.Fault)
  | encoding
deriving DecidableEq, Repr

namespace Refusal

/-- The status of a refusal. JSON of another type is told apart from a body that is no JSON. -/
def status : Refusal → UInt16
  | .mediaType => 415
  | .oversized => 413
  | .payload .mistyped => 422
  | .username | .payload .ended | .payload .malformed | .encoding => 400

/-- The words of the web framework for a call that it refuses. Nothing is known of them. -/
class Wording where
  words : Refusal → Call → String

end Refusal

structure Answer where
  status : UInt16
  contentType : Option String
  allow : Option String := none
  body : String
  refusal : Option Refusal := none
deriving DecidableEq, Repr

namespace Answer

def bare (status : UInt16) : Answer := { status, contentType := none, body := "" }

def json (body : String) : Answer := { status := 200, contentType := some "application/json", body }

def plain (status : UInt16) (body : String) : Answer :=
  { status, contentType := some "text/plain; charset=utf-8", body }

def refuse (refusal : Refusal) (words : String) : Answer :=
  { plain refusal.status words with refusal := some refusal }

def isSuccess (answer : Answer) : Bool := 200 ≤ answer.status && answer.status < 300

/-- What a method gets to see of an answer: no body for HEAD, and none of a success for CONNECT. -/
def seenBy (method : String) (answer : Answer) : Answer :=
  if method = "HEAD" ∨ (method = "CONNECT" ∧ answer.isSuccess) then { answer with body := "" } else answer

end Answer

/-- Whether a field value is made of visible ASCII characters, spaces and tabs. -/
def isVisible (value : String) : Bool :=
  value.toList.all fun char => char = '\t' || (32 ≤ char.toNat && char.toNat < 127)

def bodyLimit : Nat := 0x200000

def readUsername (segment : List Char) : Except Refusal String :=
  match Bytes.text? (Target.unescape (Utf8.encode segment)) with
  | some username => .ok username
  | none => .error .username

namespace Call

def field? (call : Call) (name : String) : Option String := (header? call.headers name).filter isVisible

def declaresJson (call : Call) : Bool :=
  match (call.field? "content-type").bind fun value => MediaType.parse? value.toList with
  | some mediaType => mediaType.isJson
  | none => false

def payload {α : Type} (codec : Codec α) (call : Call) : Except Refusal α :=
  if !call.declaresJson then .error .mediaType
  else if bodyLimit < call.body.length then .error .oversized
  else (codec.decode call.body).mapError .payload

def text (call : Call) : Except Refusal String :=
  if bodyLimit < call.body.length then .error .oversized
  else
    match call.body.text? with
    | some text => .ok text
    | none => .error .encoding

end Call

end ScanCheck.Mock
