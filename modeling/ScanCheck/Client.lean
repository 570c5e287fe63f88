import ScanCheck.Base64
import ScanCheck.Codec.Basic
import ScanCheck.Http.Message
import ScanCheck.Text.Quoted

namespace ScanCheck

inductive ClientError
  | transport (url message : String)
  | requestFailed (status : UInt16) (body : String)
  /-- The body cannot be decoded, in the words of the JSON library. -/
  | malformedResponse (fault : Json.Fault) (words : String)
  /-- The payload has no JSON text, in the words of the JSON library. -/
  | serialization (words : String)
deriving DecidableEq, Repr

def ClientError.message : ClientError → String
  | .transport url message => "transport error for " ++ url ++ ": " ++ message
  | .requestFailed status body => Decimal.text status.toNat ++ ": " ++ body
  | .malformedResponse _ words => "malformed response body: " ++ words
  | .serialization words => "serialization failed: " ++ words

/-- The text of a payload, or the reason why it has none. -/
abbrev Serialized := Except ClientError String

/-- The key of an entry of a map that is to be written as JSON. -/
inductive Key
  | name (text : String)
  | pair (first second : Int)
deriving DecidableEq, Repr

def Key.name? : Key → Option String
  | .name text => some text
  | .pair _ _ => none

namespace Serialized

def absent : Serialized := .ok "null"

def ofJson (value : Json) : Serialized := .ok value.compact

def ofValue {α : Type} (codec : Codec α) (value : α) : Serialized := .ok (codec.text value)

/-- A map with keys of any kind: it has a text if all its keys have. The error is in the words of the JSON library. -/
def ofMap (entries : List (Key × Json)) : Serialized :=
  match entries.mapM fun entry => entry.1.name?.map fun name => (name, entry.2) with
  | some members => .ok (Json.object members).compact
  | none => .error (.serialization "key must be a string")

end Serialized

/-- Something that carries a request out and gives back the answer. Its state is whatever it needs to know
to answer the next request. -/
abbrev Transport (σ : Type) := σ → Request → Except ClientError Response × σ

structure Duration where
  nanoseconds : Nat
deriving DecidableEq, Repr

namespace Duration

def zero : Duration := ⟨0⟩

def ofMilliseconds (count : UInt64) : Duration := ⟨count.toNat * 1000000⟩

def milliseconds (duration : Duration) : Nat := duration.nanoseconds / 1000000

end Duration

inductive Event
  | send (request : Request)
  | pause (length : Duration)
deriving DecidableEq, Repr

/-- What is left of a call: its result, the events in order, and the transport. -/
structure Exchange (ε α σ : Type) where
  result : Except ε α
  trace : List Event
  transport : σ

namespace Exchange

variable {ε α β σ : Type}

def refused (error : ε) (transport : σ) : Exchange ε α σ := ⟨.error error, [], transport⟩

def andThen {φ : Type} (exchange : Exchange ε α σ) (next : Except ε α → Except φ β) :
    Exchange φ β σ :=
  ⟨next exchange.result, exchange.trace, exchange.transport⟩

end Exchange

structure ClientConfig where
  baseUrl : String
  username : String := ""
  password : String := ""
  insecureSkipVerify : Bool := false
deriving DecidableEq

namespace ClientConfig

def withCredentials (config : ClientConfig) (username password : String) : ClientConfig :=
  { config with username, password }

def authorization? (config : ClientConfig) : Option String :=
  if config.username = "" then none
  else
    let pair := utf8 (config.username ++ ":" ++ config.password)
    some ("Basic " ++ String.ofList (Base64.encode pair))

def headers (config : ClientConfig) : List Header :=
  ("content-type", "application/json") ::
    config.authorization?.toList.map fun value => ("authorization", value)

/-- A GET request. It has no body but declares a JSON content type all the same. -/
def buildGet (config : ClientConfig) (endpoint : String) : Request :=
  { method := .get, url := config.baseUrl ++ endpoint, headers := config.headers, body := none }

/-- A POST request. The endpoint is appended to the base URL as it is. -/
def buildPost (config : ClientConfig) (endpoint : String) (payload : Serialized) :
    Except ClientError Request :=
  payload.map fun body =>
    { method := .post, url := config.baseUrl ++ endpoint, headers := config.headers, body := some body }

def describe (config : ClientConfig) : String :=
  "ClientConfig \x7b base_url: " ++ Text.quoted config.baseUrl ++ ", username: " ++
    Text.quoted config.username ++ ", password: \"<redacted>\", insecure_skip_verify: " ++
    String.ofList (Json.printFlag config.insecureSkipVerify) ++ " \x7d"

end ClientConfig

/-- The error for a body that a codec does not take. -/
def Codec.malformed {α : Type} [Codec.Wording] (codec : Codec α) (body : Bytes) (fault : Json.Fault) :
    ClientError :=
  .malformedResponse fault (Codec.Wording.json codec body)

/-- The value of a response: of status 200, its decoded body. -/
def parseJson {α : Type} [Codec.Wording] (codec : Codec α) (response : Response) : Except ClientError α :=
  if response.status = 200 then (codec.decode response.body).mapError (codec.malformed response.body)
  else .error (.requestFailed response.status response.text)

structure Client (σ : Type) where
  config : ClientConfig
  transport : Transport σ

namespace Client

variable {α σ : Type}

/-- Carries a request out and gives back the response, whatever its status. -/
def send (client : Client σ) (state : σ) (request : Request) : Exchange ClientError Response σ :=
  let (answer, state) := client.transport state request
  ⟨answer, [.send request], state⟩

def get [Codec.Wording] (client : Client σ) (codec : Codec α) (state : σ) (endpoint : String) :
    Exchange ClientError α σ :=
  (client.send state (client.config.buildGet endpoint)).andThen (· >>= parseJson codec)

def post [Codec.Wording] (client : Client σ) (codec : Codec α) (state : σ) (endpoint : String)
    (payload : Serialized) : Exchange ClientError α σ :=
  match client.config.buildPost endpoint payload with
  | .error error => .refused error state
  | .ok request => (client.send state request).andThen (· >>= parseJson codec)

end Client

end ScanCheck
