import ScanCheck.Config.Validation
import ScanCheck.Harness.Script
import ScanCheck.Proofs.Config.Overrides
import ScanCheck.Proofs.Harness.Requests
import ScanCheck.Proofs.Harness.Turns

namespace ScanCheck

variable {π σ : Type}

/-- A field with its value blotted out if it is an authorization. -/
def maskField (field : Header) : Header := if field.1 = "authorization" then (field.1, "") else field

def Request.masked (request : Request) : Request :=
  { request with headers := request.headers.map maskField }

def Event.masked : Event → Event
  | .send request => .send request.masked
  | .pause length => .pause length

def ClientConfig.withoutPassword (client : ClientConfig) : ClientConfig := { client with password := "" }

namespace HarnessConfig

def withoutPassword (config : HarnessConfig) : HarnessConfig :=
  { config with credentials := config.credentials.map fun credentials => { credentials with password := "" } }

def Anonymous (config : HarnessConfig) : Prop :=
  ∀ credentials ∈ config.credentials, credentials.username = ""

end HarnessConfig

namespace ClientConfig

theorem describe_withoutPassword (client : ClientConfig) : client.withoutPassword.describe = client.describe := rfl

theorem headers_withoutPassword (client : ClientConfig) :
    client.withoutPassword.headers.map maskField = client.headers.map maskField := by
  unfold headers authorization? withoutPassword
  by_cases anonymous : client.username = ""
  · simp only [if_pos anonymous]
  · simp [if_neg anonymous, maskField]

theorem headers_anonymous {client : ClientConfig} (anonymous : client.username = "") :
    client.headers = [("content-type", "application/json")] := by
  simp [headers, authorization?, anonymous]

theorem buildPost_withoutPassword (client : ClientConfig) (path : String) (payload : Serialized) :
    (client.withoutPassword.buildPost path payload).map Request.masked =
      (client.buildPost path payload).map Request.masked := by
  have address : client.withoutPassword.baseUrl = client.baseUrl := rfl
  cases payload with
  | error error => simp only [buildPost, Except.map]
  | ok body => simp only [buildPost, Except.map, Request.masked, client.headers_withoutPassword, address]

theorem buildPost_anonymous {client : ClientConfig} (anonymous : client.username = "") (path : String)
    (payload : Serialized) : client.withoutPassword.buildPost path payload = client.buildPost path payload := by
  have address : client.withoutPassword.baseUrl = client.baseUrl := rfl
  have nameless : client.withoutPassword.username = "" := anonymous
  simp only [buildPost, headers_anonymous anonymous, headers_anonymous nameless, address]

theorem buildPost_headers {client : ClientConfig} {path : String} {payload : Serialized} {request : Request}
    (built : client.buildPost path payload = .ok request) : request.headers = client.headers := by
  cases payload with
  | error error => cases built
  | ok body => cases built; rfl

end ClientConfig

namespace HarnessConfig

theorem describe_withoutPassword (config : HarnessConfig) : config.withoutPassword.describe = config.describe := by
  obtain ⟨host, scheme, username, credentials, insecure, delay, services⟩ := config
  cases credentials <;> rfl

theorem validate_withoutPassword (config : HarnessConfig) : config.withoutPassword.validate = config.validate :=
  rfl

theorem clientConfig_withoutPassword (config : HarnessConfig) (service : String) :
    config.withoutPassword.clientConfig service =
      (config.clientConfig service).map ClientConfig.withoutPassword := by
  have address : config.withoutPassword.baseUrl service = config.baseUrl service := rfl
  unfold clientConfig
  rw [address]
  cases config.baseUrl service with
  | error error => rfl
  | ok origin =>
      obtain ⟨host, scheme, username, credentials, insecure, delay, services⟩ := config
      cases credentials <;> rfl

theorem clientConfig_anonymous {config : HarnessConfig} (anonymous : config.Anonymous) {service : String}
    {client : ClientConfig} (found : config.clientConfig service = .ok client) : client.username = "" := by
  unfold clientConfig at found
  cases address : config.baseUrl service with
  | error error => simp [address, bind, Except.bind] at found
  | ok origin =>
      cases given : config.credentials with
      | none =>
          simp only [address, given, bind, Except.bind, Except.ok.injEq] at found
          rw [← found]
      | some credentials =>
          simp only [address, given, bind, Except.bind, Except.ok.injEq] at found
          rw [← found]
          exact anonymous credentials given

theorem overrideDelay_withoutPassword (config : HarnessConfig) (lookup : Lookup) :
    config.withoutPassword.overrideDelay lookup = (config.overrideDelay lookup).map withoutPassword := by
  unfold overrideDelay
  cases lookup Overrides.delayName with
  | none => rfl
  | some given => cases read : Decimal.readUInt64? given <;> simp only [read] <;> rfl

theorem overrideInsecure_withoutPassword (config : HarnessConfig) (lookup : Lookup) :
    config.withoutPassword.overrideInsecure lookup =
      (config.overrideInsecure lookup).map withoutPassword := by
  unfold overrideInsecure
  cases lookup Overrides.insecureName with
  | none => rfl
  | some given => cases read : Overrides.readFlag? given <;> simp only [read] <;> rfl

/-- Overrides do the same with and without a password, and are refused for the same reason. -/
theorem applyOverrides_withoutPassword (config : HarnessConfig) (lookup : Lookup) :
    config.withoutPassword.applyOverrides lookup =
      ⟨(config.applyOverrides lookup).config.withoutPassword, (config.applyOverrides lookup).verdict⟩ := by
  have named : config.withoutPassword.overrideNames lookup =
      (config.overrideNames lookup).withoutPassword := rfl
  unfold applyOverrides
  simp only [named, overrideDelay_withoutPassword]
  cases (config.overrideNames lookup).overrideDelay lookup with
  | error error => rfl
  | ok delayed =>
      simp only [Except.map, overrideInsecure_withoutPassword]
      cases delayed.overrideInsecure lookup <;> rfl

end HarnessConfig

namespace Harness

theorem buildFor_withoutPassword (config : HarnessConfig) (service path : String) (payload : Serialized) :
    (buildFor config.withoutPassword service path payload).map Request.masked =
      (buildFor config service path payload).map Request.masked := by
  have client := config.clientConfig_withoutPassword service
  cases found : config.clientConfig service with
  | error error =>
      rw [found] at client
      rw [buildFor_of_error found, buildFor_of_error client]
  | ok settings =>
      rw [found] at client
      rw [buildFor_of_client found, buildFor_of_client client, map_mapError, map_mapError]
      exact congrArg _ (settings.buildPost_withoutPassword path payload)

theorem buildFor_anonymous {config : HarnessConfig} (anonymous : config.Anonymous)
    (service path : String) (payload : Serialized) :
    buildFor config.withoutPassword service path payload = buildFor config service path payload := by
  have client := config.clientConfig_withoutPassword service
  cases found : config.clientConfig service with
  | error error =>
      rw [found] at client
      rw [buildFor_of_error found, buildFor_of_error client]
  | ok settings =>
      rw [found] at client
      have nameless := HarnessConfig.clientConfig_anonymous anonymous found
      rw [buildFor_of_client found, buildFor_of_client client, ClientConfig.buildPost_anonymous nameless]

theorem buildFor_anonymous_headers {config : HarnessConfig} (anonymous : config.Anonymous)
    {service path : String} {payload : Serialized} {request : Request}
    (built : buildFor config service path payload = .ok request) :
    request.headers = [("content-type", "application/json")] := by
  cases found : config.clientConfig service with
  | error error =>
      rw [buildFor_of_error found] at built
      cases built
  | ok client =>
      rw [buildFor_of_client found] at built
      cases post : client.buildPost path payload with
      | error error =>
          rw [post] at built
          cases built
      | ok sent =>
          rw [post] at built
          cases built
          rw [ClientConfig.buildPost_headers post]
          exact ClientConfig.headers_anonymous (HarnessConfig.clientConfig_anonymous anonymous found)

end Harness

/-- A transport that answers without a look at authorizations. -/
def Transport.Blind (transport : Transport σ) : Prop :=
  ∀ state request other, Request.masked request = Request.masked other →
    transport state request = transport state other

theorem Script.transport_blind : Transport.Blind Script.transport := by
  intro script request other same
  have url : request.url = other.url := congrArg (·.url) same
  cases script <;> simp only [Script.transport, url]

namespace Turn

def masked : Turn π → Turn π
  | .refused case error => .refused case error
  | .lost case request error => .lost case request.masked error
  | .answered case request response => .answered case request.masked response

theorem report_masked (label : π → String) (index : Nat) (turn : Turn π) :
    turn.masked.report label index = turn.report label index := by
  cases turn <;> rfl

theorem events_masked (delay : Duration) (turn : Turn π) :
    (turn.events delay).map Event.masked = turn.masked.events delay := by
  have pause : (pauses delay).map Event.masked = pauses delay := by
    unfold pauses
    split <;> rfl
  cases turn <;> simp [events, masked, Event.masked, pause]

end Turn

namespace Harness

variable {left right : Harness σ} {request other : π → Except HarnessError Request}

theorem turn_masked (transport : left.transport = right.transport) (blind : left.transport.Blind)
    (alike : ∀ case, (request case).map Request.masked = (other case).map Request.masked)
    (case : π) (state : σ) :
    (left.turn (.ofRequest request) case state).1.masked =
        (right.turn (.ofRequest other) case state).1.masked ∧
      (left.turn (.ofRequest request) case state).2 = (right.turn (.ofRequest other) case state).2 := by
  have same := alike case
  unfold turn Builder.ofRequest
  cases first : request case with
  | error error =>
      cases second : other case with
      | error reason =>
          simp only [first, second, Except.map, Except.error.injEq] at same
          simp [same]
      | ok sent => simp [first, second, Except.map] at same
  | ok sent =>
      cases second : other case with
      | error reason => simp [first, second, Except.map] at same
      | ok twin =>
          simp only [first, second, Except.map, Except.ok.injEq] at same
          simp only [← transport, ← blind state sent twin same]
          cases left.transport state sent with
          | mk answer after => cases answer <;> simp [Turn.masked, same]

theorem turns_masked (transport : left.transport = right.transport) (blind : left.transport.Blind)
    (alike : ∀ case, (request case).map Request.masked = (other case).map Request.masked)
    (cases : List π) (state : σ) :
    (left.turns (.ofRequest request) cases state).1.map Turn.masked =
        (right.turns (.ofRequest other) cases state).1.map Turn.masked ∧
      (left.turns (.ofRequest request) cases state).2 = (right.turns (.ofRequest other) cases state).2 := by
  induction cases generalizing state with
  | nil => exact ⟨rfl, rfl⟩
  | cons case cases ih =>
      obtain ⟨first, after⟩ := turn_masked transport blind alike case state
      obtain ⟨others, final⟩ := ih (left.turn (.ofRequest request) case state).2
      rw [after] at others final
      simp only [turns, List.map_cons, first, after, others, final, and_self]

theorem runSuite_masked (left right : Harness σ) (transport : left.transport = right.transport)
    (blind : left.transport.Blind)
    (delay : left.interCallDelay = right.interCallDelay)
    (alike : ∀ case, (request case).map Request.masked = (other case).map Request.masked)
    (suite : String) (label : π → String) (cases : List π) (state : σ) :
    let first := left.runSuite suite label (.ofRequest request) cases state
    let second := right.runSuite suite label (.ofRequest other) cases state
    first.result = second.result ∧ first.trace.map Event.masked = second.trace.map Event.masked ∧
      first.state = second.state := by
  obtain ⟨turns, final⟩ := turns_masked transport blind alike cases state
  have reports (turns : List (Turn π)) :
      turns.mapIdx (fun index turn => turn.report label index) =
        (turns.map Turn.masked).mapIdx fun index turn => turn.report label index := by
    refine List.ext_getElem? fun index => ?_
    simp [Turn.report_masked, Function.comp_def]
  have events (turns : List (Turn π)) (delay : Duration) :
      (turns.flatMap (Turn.events delay)).map Event.masked =
        (turns.map Turn.masked).flatMap (Turn.events delay) := by
    simp [List.map_flatMap, List.flatMap_map, Turn.events_masked]
  simp only [runSuite_eq_turns]
  refine ⟨?_, ?_, final⟩
  · rw [reports, turns, ← reports]
  · rw [events, turns, delay, ← events]

end Harness

/-- What two configurations lead to differs at most in the values of authorization fields, and in nothing
if there is no user name to authorize. -/
structure Unleaked (left right : HarnessConfig) (run : HarnessConfig → Run SuiteReport σ) : Prop where
  report : (run left).result = (run right).result
  text : (run left).result.render = (run right).result.render
  trace : (run left).trace.map Event.masked = (run right).trace.map Event.masked
  state : (run left).state = (run right).state
  anonymous : left.Anonymous → (run left).trace = (run right).trace ∧
    ∀ request ∈ sent (run left).trace, request.header? "authorization" = none

/-- What shows of two configurations, and of their suites over a script, is the same. -/
structure Indistinguishable (left right : HarnessConfig) : Prop where
  description : left.describe = right.describe
  clients : ∀ service, (left.clientConfig service).map ClientConfig.describe =
    (right.clientConfig service).map ClientConfig.describe
  verdict : left.validate = right.validate
  pace : left.interCallDelay = right.interCallDelay
  scans : ∀ delay cases script, Unleaked left right fun config =>
    Harness.runScanSuite ⟨config, Script.transport, delay⟩ cases script
  analyses : ∀ delay cases script, Unleaked left right fun config =>
    Harness.runAnalysisSuite ⟨config, Script.transport, delay⟩ cases script

section SamePassword

variable {left right : HarnessConfig} (same : left.withoutPassword = right.withoutPassword)

include same

theorem anonymous_of_same (anonymous : left.Anonymous) : right.Anonymous := by
  have names (config : HarnessConfig) :
      config.withoutPassword.credentials.map (·.username) = config.credentials.map (·.username) := by
    simp [HarnessConfig.withoutPassword, Function.comp_def]
  have shared : left.credentials.map (·.username) = right.credentials.map (·.username) := by
    rw [← names left, same, names right]
  intro credentials given
  rw [given] at shared
  obtain ⟨twin, known, name⟩ := Option.map_eq_some_iff.mp shared
  exact name.symm.trans (anonymous twin known)

theorem runSuite_unleaked {transport : Transport σ} (blind : transport.Blind) {endpoint : HarnessConfig → String}
    (path : ∀ config, endpoint config.withoutPassword = endpoint config) (service : String)
    (payload : π → Serialized) (delay : Duration) (suite : String) (label : π → String) (cases : List π)
    (state : σ) :
    Unleaked left right fun config => Harness.runSuite ⟨config, transport, delay⟩ suite label
      (.ofRequest fun case => Harness.buildFor config service (endpoint config) (payload case)) cases state := by
  have paths : endpoint left = endpoint right := by rw [← path left, same, path right]
  have alike (case : π) :
      (Harness.buildFor left service (endpoint left) (payload case)).map Request.masked =
        (Harness.buildFor right service (endpoint right) (payload case)).map Request.masked := by
    rw [← Harness.buildFor_withoutPassword left, same, Harness.buildFor_withoutPassword right, paths]
  obtain ⟨report, trace, state⟩ := Harness.runSuite_masked ⟨left, transport, delay⟩ ⟨right, transport, delay⟩
    rfl blind rfl alike suite label cases state
  refine ⟨report, congrArg SuiteReport.render report, trace, state, fun anonymous => ⟨?_, ?_⟩⟩
  · have equal (case : π) : Harness.buildFor left service (endpoint left) (payload case) =
        Harness.buildFor right service (endpoint right) (payload case) := by
      rw [← Harness.buildFor_anonymous anonymous, same,
        Harness.buildFor_anonymous (anonymous_of_same same anonymous), paths]
    simp only [Harness.trace_ofRequest, equal]
  · intro request issued
    rw [Harness.sent_ofRequest] at issued
    obtain ⟨case, -, built⟩ := List.mem_filterMap.mp issued
    cases attempt : Harness.buildFor left service (endpoint left) (payload case) with
    | error error => simp [attempt, Except.toOption] at built
    | ok sent =>
        simp only [attempt, Except.toOption, Option.some.injEq] at built
        have headers := Harness.buildFor_anonymous_headers anonymous attempt
        have unauthorized : header? [("content-type", "application/json")] "authorization" = none := by
          decide +kernel
        simp only [Request.header?, ← built, headers, unauthorized]

theorem indistinguishable_of_same : Indistinguishable left right where
  description := by rw [← left.describe_withoutPassword, same, right.describe_withoutPassword]
  clients service := by
    have described (config : HarnessConfig) : (config.withoutPassword.clientConfig service).map ClientConfig.describe =
        (config.clientConfig service).map ClientConfig.describe := by
      rw [config.clientConfig_withoutPassword]
      cases config.clientConfig service <;> rfl
    rw [← described left, same, described right]
  verdict := by rw [← left.validate_withoutPassword, same, right.validate_withoutPassword]
  pace := by
    have paced (config : HarnessConfig) : config.withoutPassword.interCallDelay = config.interCallDelay := rfl
    rw [← paced left, same, paced right]
  scans delay cases script := runSuite_unleaked same Script.transport_blind (fun _ => rfl) clamav
    (fun case => .ofValue ScanPayload.codec case) delay clamav ScanPayload.label cases script
  analyses delay cases script := runSuite_unleaked same Script.transport_blind (fun _ => rfl) klocwork
    (fun case => .ofValue AnalysisPayload.codec case) delay klocwork AnalysisPayload.label cases script

end SamePassword

/-- Two configurations that differ in the password only look the same, are refused and overridden for the
same reasons, and lead to the same reports and to requests that differ in the values of their authorization
fields only. Without a user name not even those differ, because there are none. -/
theorem passwords_unleaked {left right : HarnessConfig} (same : left.withoutPassword = right.withoutPassword)
    (lookup : Lookup) :
    let first := left.applyOverrides lookup
    let second := right.applyOverrides lookup
    Indistinguishable left right ∧ first.verdict = second.verdict ∧
      Indistinguishable first.config second.config ∧ first.config.credentials = left.credentials := by
  intro first second
  have both : (⟨first.config.withoutPassword, first.verdict⟩ : Overridden) =
      ⟨second.config.withoutPassword, second.verdict⟩ := by
    rw [← left.applyOverrides_withoutPassword, same, right.applyOverrides_withoutPassword]
  obtain ⟨overridden, verdict⟩ := Overridden.mk.inj both
  obtain ⟨-, credentials, -⟩ := left.applyOverrides_kept lookup
  exact ⟨indistinguishable_of_same same, verdict, indistinguishable_of_same overridden, credentials⟩

/-- With a user name the traces do differ, but only behind the mask. -/
theorem passwords_unleaked_of_svc :
    let left : HarnessConfig := { HarnessConfig.default with credentials := some ⟨"svc", "hunter2"⟩ }
    let right : HarnessConfig := { HarnessConfig.default with credentials := some ⟨"svc", "p:w"⟩ }
    let lookup : Lookup := fun name => if name = Overrides.delayName then some "soon" else none
    let scan : HarnessConfig → Run SuiteReport Script := fun config =>
      Harness.runScanSuite ⟨config, Script.transport, .zero⟩ [⟨"p", []⟩] [.respond ⟨500, utf8 "boom"⟩]
    left.withoutPassword = right.withoutPassword ∧ Indistinguishable left right ∧
      Indistinguishable (left.applyOverrides lookup).config (right.applyOverrides lookup).config ∧
      (right.applyOverrides lookup).verdict = .error (.invalid (.notADelay "soon")) ∧
      (scan left).trace ≠ (scan right).trace ∧
      (scan left).trace.map Event.masked = (scan right).trace.map Event.masked := by
  intro left right lookup scan
  have same : left.withoutPassword = right.withoutPassword := by decide +kernel
  obtain ⟨alike, verdict, overridden, -⟩ := passwords_unleaked same lookup
  have refused : (left.applyOverrides lookup).verdict = .error (.invalid (.notADelay "soon")) := rfl
  exact ⟨same, alike, overridden, verdict.symm.trans refused, by decide +kernel, (alike.scans _ _ _).trace⟩

end ScanCheck
