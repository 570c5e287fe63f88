import Mathlib.Data.List.Forall2
import ScanCheck.Proofs.Codec.Formats
import ScanCheck.Proofs.Harness.Requests
import ScanCheck.Proofs.NameMap

namespace ScanCheck

section Written

variable {V : Type} (format : Format V)

/-- Credentials as an object or as an array of their fields. Without a password it is empty. -/
inductive Credentials.Written : Credentials → V → Prop
  | object {members : List (String × V)} {item : V} {username : String} {password : Option String}
      (written : format.object members item)
      (usernameGiven : Given format.text (valuesOf "username" members) (some username))
      (passwordGiven : Given format.text (valuesOf "password" members) password)
      (others : ∀ member ∈ members, member.1 ∉ ["username", "password"] → format.passed member.2) :
      Written { username, password := password.getD "" } item
  | alone {first item : V} {username : String} (written : format.array [first] item)
      (usernameGiven : format.text username first) : Written { username, password := "" } item
  | pair {first second item : V} {username password : String} (written : format.array [first, second] item)
      (usernameGiven : format.text username first) (passwordGiven : format.text password second) :
      Written { username, password } item

/-- An endpoint as an object or as an array of its fields. Its host may be left out or be none. -/
inductive ServiceEndpoint.Written : ServiceEndpoint → V → Prop
  | object {members : List (String × V)} {item : V} {host : Option (Option String)} {port : UInt16}
      (written : format.object members item)
      (hostGiven : Given (format.orAbsent format.text) (valuesOf "host" members) host)
      (portGiven : Given (fun port => format.natural port.toNat) (valuesOf "port" members) (some port))
      (others : ∀ member ∈ members, member.1 ∉ ["host", "port"] → format.passed member.2) :
      Written { host := host.getD none, port } item
  | pair {first second item : V} {host : Option String} {port : UInt16} (written : format.array [first, second] item)
      (hostGiven : format.orAbsent format.text host first) (portGiven : format.natural port.toNat second) :
      Written { host, port } item

/-- The bindings of a table of services, in the order in which they stand. -/
def ServicesWritten (bindings : List (String × ServiceEndpoint)) (item : V) : Prop :=
  ∃ members, format.object members item ∧
    List.Forall₂ (fun binding member => binding.1 = member.1 ∧ ServiceEndpoint.Written format binding.2 member.2)
      bindings members

end Written

/-- The settings that a configuration gives. -/
structure Settings where
  host : Option String := none
  scheme : Option String := none
  username : Option String := none
  credentials : Option (Option Credentials) := none
  insecureSkipVerify : Option Bool := none
  interCallDelayMs : Option UInt64 := none
  services : Option (List (String × ServiceEndpoint)) := none

namespace Settings

/-- The default configuration with the given settings in place of its own. -/
def complete (given : Settings) : HarnessConfig where
  host := given.host.getD HarnessConfig.default.host
  scheme := given.scheme.getD HarnessConfig.default.scheme
  username := given.username.getD HarnessConfig.default.username
  credentials := given.credentials.getD HarnessConfig.default.credentials
  insecureSkipVerify := given.insecureSkipVerify.getD HarnessConfig.default.insecureSkipVerify
  interCallDelayMs := given.interCallDelayMs.getD HarnessConfig.default.interCallDelayMs
  services := (given.services.map NameMap.ofList).getD HarnessConfig.default.services

def names : List String :=
  ["host", "scheme", "username", "credentials", "insecure_skip_verify", "inter_call_delay_ms", "services"]

/-- Members in any order: each given setting once, no other one, and what nobody asks for. -/
structure Written {V : Type} (format : Format V) (given : Settings) (members : List (String × V)) : Prop where
  host : Given format.text (valuesOf "host" members) given.host
  scheme : Given format.text (valuesOf "scheme" members) given.scheme
  username : Given format.text (valuesOf "username" members) given.username
  credentials : Given (format.orAbsent (Credentials.Written format)) (valuesOf "credentials" members) given.credentials
  insecureSkipVerify : Given format.flag (valuesOf "insecure_skip_verify" members) given.insecureSkipVerify
  interCallDelayMs : Given (fun delay => format.natural delay.toNat) (valuesOf "inter_call_delay_ms" members)
    given.interCallDelayMs
  services : Given (ServicesWritten format) (valuesOf "services" members) given.services
  others : ∀ member ∈ members, member.1 ∉ names → format.passed member.2

end Settings

theorem Credentials.Written.present {V : Type} {format : Format V} (credentials : Credentials) (item : V)
    (written : Written format credentials item) : format.Present item := by
  cases written with
  | object written usernameGiven passwordGiven others => exact .object written
  | alone written usernameGiven => exact .array written
  | pair written usernameGiven passwordGiven => exact .array written

section Read

variable {V : Type} {format : Format V} {accepts : Acceptance V} (read : format.ReadBy accepts)

include read

theorem Credentials.Written.accepted (credentials : Credentials) (item : V)
    (written : Written format credentials item) : accepts _ Credentials.codec credentials item := by
  cases written with
  | @object members item username password written usernameGiven passwordGiven others =>
      let slots : Slots [String, String] := (some username, password, ())
      let row : Row [String, String] := (username, password.getD "", ())
      apply @Format.ReadBy.object V format accepts read Credentials _ _ members slots row
      case distinct => decide
      case fills => exact ⟨usernameGiven.mono fun _ _ => read.text, passwordGiven.mono fun _ _ => read.text, trivial⟩
      case complete => cases password <;> rfl
      case others => exact others
      case written => exact written
  | @alone first item username written usernameGiven =>
      let row : Row [String, String] := (username, "", ())
      apply @Format.ReadBy.array V format accepts read Credentials _ _ [first] row
      case inOrder => exact ⟨read.text usernameGiven, rfl, rfl⟩
      case written => exact written
  | @pair first second item username password written usernameGiven passwordGiven =>
      let row : Row [String, String] := (username, password, ())
      apply @Format.ReadBy.array V format accepts read Credentials _ _ [first, second] row
      case inOrder => exact ⟨read.text usernameGiven, read.text passwordGiven, rfl⟩
      case written => exact written

theorem Format.ReadBy.optionalText (value : Option String) (item : V) (given : format.orAbsent format.text value item) :
    accepts _ Codec.string.optional value item :=
  read.optional (fun _ _ => read.text) (fun _ _ => .text) value item given

theorem ServiceEndpoint.Written.accepted (endpoint : ServiceEndpoint) (item : V)
    (written : Written format endpoint item) : accepts _ ServiceEndpoint.codec endpoint item := by
  cases written with
  | @object members item host port written hostGiven portGiven others =>
      let slots : Slots [Option String, UInt16] := (host, some port, ())
      let row : Row [Option String, UInt16] := (host.getD none, port, ())
      apply @Format.ReadBy.object V format accepts read ServiceEndpoint _ _ members slots row
      case distinct => decide
      case fills => exact ⟨hostGiven.mono read.optionalText, portGiven.mono fun _ _ => read.uint16, trivial⟩
      case complete => cases host <;> rfl
      case others => exact others
      case written => exact written
  | @pair first second item host port written hostGiven portGiven =>
      let row : Row [Option String, UInt16] := (host, port, ())
      apply @Format.ReadBy.array V format accepts read ServiceEndpoint _ _ [first, second] row
      case inOrder => exact ⟨read.optionalText host first hostGiven, read.uint16 portGiven, rfl⟩
      case written => exact written

theorem ServicesWritten.accepted {bindings : List (String × ServiceEndpoint)} {item : V}
    (written : ServicesWritten format bindings item) :
    accepts _ ServiceEndpoint.codec.nameMap (.ofList bindings) item := by
  obtain ⟨members, written, each⟩ := written
  apply read.map ?binds written
  exact each.imp fun binding member own => ⟨own.1, ServiceEndpoint.Written.accepted read _ _ own.2⟩

theorem Settings.Written.accepted {given : Settings} {members : List (String × V)} {item : V}
    (written : given.Written format members) (object : format.object members item) :
    accepts _ HarnessConfig.codec given.complete item := by
  let services := given.services.map NameMap.ofList
  let slots : Slots [String, String, String, Option Credentials, Bool, UInt64, NameMap ServiceEndpoint] :=
    (given.host, given.scheme, given.username, given.credentials, given.insecureSkipVerify, given.interCallDelayMs,
      services, ())
  let complete := given.complete
  let row : Row [String, String, String, Option Credentials, Bool, UInt64, NameMap ServiceEndpoint] :=
    (complete.host, complete.scheme, complete.username, complete.credentials, complete.insecureSkipVerify,
      complete.interCallDelayMs, complete.services, ())
  have optionalCredentials := read.optional (Credentials.Written.accepted read) Credentials.Written.present
  apply @Format.ReadBy.object V format accepts read HarnessConfig _ _ members slots row
  case distinct => decide
  case fills =>
    exact ⟨written.host.mono fun _ _ => read.text, written.scheme.mono fun _ _ => read.text,
      written.username.mono fun _ _ => read.text, written.credentials.mono optionalCredentials,
      written.insecureSkipVerify.mono fun _ _ => read.flag, written.interCallDelayMs.mono fun _ _ => read.uint64,
      written.services.map NameMap.ofList fun _ _ => ServicesWritten.accepted read, trivial⟩
  case complete =>
    iterate 7 apply Fields.complete_default
    rfl
  case others => exact written.others
  case written => exact object

end Read

namespace Settings

/-- What becomes of settings: in either format, the configuration that is completed from the defaults. Services that are
given are all that there are; of bindings of the same name the last one counts. -/
structure Completed [Codec.Wording] (given : Settings) : Prop where
  json {members : List (String × Bytes)} {before text after : Bytes} (written : given.Written Json.format members)
    (object : Json.format.object members text) (blank : Json.Blank before) (behind : Json.Blank after) :
    HarnessConfig.codec.decode (before ++ (text ++ after)) = .ok given.complete
  table {entries : List (String × Toml)} (written : given.Written Toml.format entries) :
    HarnessConfig.codec.ofToml (.table entries) = some given.complete
  document {source : String} {entries : List (String × Toml)} (parsed : Toml.parse? source = some entries)
    (written : given.Written Toml.format entries) : HarnessConfig.codec.fromToml source = .ok given.complete
  replaced {bindings : List (String × ServiceEndpoint)} (services : given.services = some bindings) (service : String) :
    given.complete.services.get? service = bindings.reverse.lookup service ∧
      (given.complete.services.contains service = true ↔ service ∈ bindings.map (·.1)) ∧
      (service ∉ bindings.map (·.1) → given.complete.baseUrl service = .error (.unknownService service))

/-- Every choice of settings is completed from the defaults, one by one, whatever their order and whatever stands
between them. -/
theorem settings_completed [Codec.Wording] (given : Settings) : given.Completed where
  json written object blank behind := by
    obtain ⟨-, read⟩ := written.accepted Json.format_read object
    exact Json.readAll_yields read blank behind
  table written := written.accepted Toml.format_read rfl
  document parsed written := by
    have taken : HarnessConfig.codec.ofToml (.table _) = some given.complete := written.accepted Toml.format_read rfl
    rw [Codec.fromToml, parsed, Option.bind_some, taken]
  replaced {bindings} services service := by
    have whole : given.complete.services = .ofList bindings := by
      rw [complete, services]
      rfl
    have names := NameMap.contains_ofList service bindings
    rw [whole]
    refine ⟨NameMap.get?_ofList service bindings, names, fun absent => ?_⟩
    apply HarnessConfig.baseUrl_unconfigured
    rw [whole]
    exact Option.not_isSome_iff_eq_none.mp (mt names.mp absent)

theorem settings_completed_replacing : HarnessConfig.codec.decode
    (utf8 "\x7b\"note\":[],\"services\":\x7b\"clamav\":\x7b\"port\":9\x7d\x7d,\"host\":\"h\"\x7d") =
      .ok { HarnessConfig.default with host := "h", services := .ofList [("clamav", { port := 9 })] } := by
  let endpoint : List (String × List Char) := [("port", ['9'])]
  let services : List (String × List Char) := [("clamav", Json.braced endpoint)]
  let members : List (String × List Char) :=
    [("note", ['[', ']']), ("services", Json.braced services), ("host", Json.quote "h")]
  let given : Settings := { host := some "h", services := some [("clamav", { port := 9 })] }
  have port : ServiceEndpoint.Written Json.format { port := 9 } (Utf8.encode (Json.braced endpoint)) :=
    .object (Json.format_braced endpoint) .kept (.once rfl) (by simp [endpoint])
  have note : Json.format.passed (Utf8.encode ['[', ']']) := Json.WellFormed.array (.empty Json.blank_nil) (by simp)
  have written : given.Written Json.format (members.map fun member => (member.1, Utf8.encode member.2)) := {
    host := .once ⟨_, Json.encode_quote "h", Json.quotes_quoted "h"⟩
    scheme := .kept
    username := .kept
    credentials := .kept
    insecureSkipVerify := .kept
    interCallDelayMs := .kept
    services := .once ⟨_, Json.format_braced services, .cons ⟨rfl, port⟩ .nil⟩
    others := by simpa [members, names] using note
  }
  have text : utf8 "\x7b\"note\":[],\"services\":\x7b\"clamav\":\x7b\"port\":9\x7d\x7d,\"host\":\"h\"\x7d" =
      [] ++ (Utf8.encode (Json.braced members) ++ []) := by decide +kernel
  rw [text]
  let words : Codec.Wording := { json := fun _ _ => "", toml := fun _ _ => "" }
  exact (settings_completed given).json written (Json.format_braced members) Json.blank_nil Json.blank_nil

end Settings

end ScanCheck
