import ScanCheck.Client
import ScanCheck.Files
import ScanCheck.Payload
import ScanCheck.Toml.Document

namespace ScanCheck

def clamav : String := "clamav"

def klocwork : String := "klocwork"

/-- The Basic credentials that are sent to every service. -/
structure Credentials where
  username : String
  password : String := ""
deriving DecidableEq

def Credentials.codec : Codec Credentials :=
  .record (.cons "username" .string none (.cons "password" .string (some "") .nil))
    (fun (username, password, ()) => { username, password })
    (fun credentials => (credentials.username, credentials.password, ()))

/-- Where a service listens. A service without a host of its own is on the shared one. -/
structure ServiceEndpoint where
  host : Option String := none
  port : UInt16
deriving DecidableEq

def ServiceEndpoint.codec : Codec ServiceEndpoint :=
  .record (.cons "host" Codec.string.optional (some none) (.cons "port" .uint16 none .nil))
    (fun (host, port, ()) => { host, port })
    (fun endpoint => (endpoint.host, endpoint.port, ()))

structure HarnessConfig where
  /-- The host of every service that has none of its own. -/
  host : String
  scheme : String
  /-- The identity in the paths of submissions. -/
  username : String
  credentials : Option Credentials
  insecureSkipVerify : Bool
  interCallDelayMs : UInt64
  services : NameMap ServiceEndpoint
deriving DecidableEq

inductive Defect
  | emptyHost
  | emptyUsername
  | unknownScheme
  | missingService (service : String)
  | zeroPort (service : String)
  | notADelay (given : String)
  | notAFlag (given : String)
deriving DecidableEq, Repr

def Defect.field : Defect → String
  | .emptyHost => "host"
  | .emptyUsername => "username"
  | .unknownScheme => "scheme"
  | .missingService _ => "services"
  | .zeroPort service => "services." ++ service ++ ".port"
  | .notADelay _ => "SCAN_HARNESS_DELAY_MS"
  | .notAFlag _ => "SCAN_HARNESS_INSECURE"

def Defect.reason : Defect → String
  | .emptyHost | .emptyUsername => "must not be empty"
  | .unknownScheme => "must be http or https"
  | .missingService service => "missing entry for " ++ service
  | .zeroPort _ => "must not be 0"
  | .notADelay given => "not a number of milliseconds: " ++ Text.quoted given
  | .notAFlag given => "not a boolean: " ++ Text.quoted given

/-- Why a configuration or a suite could not be obtained. -/
inductive ConfigError
  | unreadable (path : String) (fault : FileFault)
  /-- The text is not what was wanted, in the words of the TOML library. -/
  | unparsable (words : String)
  | invalid (defect : Defect)
deriving DecidableEq, Repr

def ConfigError.message : ConfigError → String
  | .unreadable path fault => "failed to read " ++ path ++ ": " ++ fault.message
  | .unparsable words => "failed to parse configuration: " ++ words
  | .invalid defect => "invalid configuration: " ++ defect.field ++ ": " ++ defect.reason

inductive HarnessError
  | client (error : ClientError)
  | assertionFailed (expected actual : UInt16) (body : String)
  | unknownService (service : String)
deriving DecidableEq, Repr

def HarnessError.message : HarnessError → String
  | .client error => error.message
  | .assertionFailed expected actual body =>
    "expected status " ++ Decimal.text expected.toNat ++ ", got " ++ Decimal.text actual.toNat ++ ": " ++
      body
  | .unknownService service => "service " ++ Text.quoted service ++ " is not configured"

def Codec.fromToml {α : Type} [Codec.Wording] (codec : Codec α) (source : String) : Except ConfigError α :=
  match (Toml.parse? source).bind fun entries => codec.ofToml (.table entries) with
  | some value => .ok value
  | none => .error (.unparsable (Codec.Wording.toml codec source))

def Codec.load {α : Type} [Codec.Wording] (codec : Codec α) (readFile : ReadFile) (path : String) :
    Except ConfigError α := do
  let source ← (readFile.text path).mapError (.unreadable path)
  codec.fromToml source

namespace HarnessConfig

def defaultServices : NameMap ServiceEndpoint :=
  .ofList [("three_rd", { port := 5001 }), (clamav, { port := 5002 }), ("sdle", { port := 5003 }),
    (klocwork, { port := 5004 }), ("bdba", { port := 5005 })]

def default : HarnessConfig where
  host := "127.0.0.1"
  scheme := "http"
  username := "tester"
  credentials := none
  insecureSkipVerify := false
  interCallDelayMs := 3000
  services := defaultServices

def codec : Codec HarnessConfig :=
  .record
    (.cons "host" .string (some default.host) (.cons "scheme" .string (some default.scheme)
      (.cons "username" .string (some default.username)
        (.cons "credentials" Credentials.codec.optional (some default.credentials)
          (.cons "insecure_skip_verify" .flag (some default.insecureSkipVerify)
            (.cons "inter_call_delay_ms" .uint64 (some default.interCallDelayMs)
              (.cons "services" ServiceEndpoint.codec.nameMap (some default.services) .nil)))))))
    (fun (host, scheme, username, credentials, insecureSkipVerify, interCallDelayMs, services, ()) =>
      { host, scheme, username, credentials, insecureSkipVerify, interCallDelayMs, services })
    (fun config => (config.host, config.scheme, config.username, config.credentials,
      config.insecureSkipVerify, config.interCallDelayMs, config.services, ()))

def interCallDelay (config : HarnessConfig) : Duration := .ofMilliseconds config.interCallDelayMs

/-- The address of a service: its scheme, its host and its port. -/
def baseUrl (config : HarnessConfig) (service : String) : Except HarnessError String :=
  match config.services.get? service with
  | none => .error (.unknownService service)
  | some endpoint =>
    .ok (config.scheme ++ "://" ++ endpoint.host.getD config.host ++ ":" ++
      Decimal.text endpoint.port.toNat)

def clientConfig (config : HarnessConfig) (service : String) : Except HarnessError ClientConfig := do
  let baseUrl ← config.baseUrl service
  let client : ClientConfig := { baseUrl, insecureSkipVerify := config.insecureSkipVerify }
  .ok (match config.credentials with
    | none => client
    | some credentials => client.withCredentials credentials.username credentials.password)

def describeOption {α : Type} (describe : α → String) : Option α → String
  | none => "None"
  | some value => "Some(" ++ describe value ++ ")"

def describeCredentials (credentials : Credentials) : String :=
  "Credentials \x7b username: " ++ Text.quoted credentials.username ++ ", password: \"<redacted>\" \x7d"

def describeEndpoint (endpoint : ServiceEndpoint) : String :=
  "ServiceEndpoint \x7b host: " ++ describeOption Text.quoted endpoint.host ++ ", port: " ++
    Decimal.text endpoint.port.toNat ++ " \x7d"

def describe (config : HarnessConfig) : String :=
  "HarnessConfig \x7b host: " ++ Text.quoted config.host ++ ", scheme: " ++ Text.quoted config.scheme ++
    ", username: " ++ Text.quoted config.username ++ ", credentials: " ++
    describeOption describeCredentials config.credentials ++ ", insecure_skip_verify: " ++
    String.ofList (Json.printFlag config.insecureSkipVerify) ++ ", inter_call_delay_ms: " ++
    Decimal.text config.interCallDelayMs.toNat ++ ", services: \x7b" ++
    ", ".intercalate (config.services.entries.map fun entry =>
      Text.quoted entry.1 ++ ": " ++ describeEndpoint entry.2) ++ "\x7d \x7d"

end HarnessConfig

end ScanCheck
