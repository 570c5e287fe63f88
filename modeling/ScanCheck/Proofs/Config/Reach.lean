import ScanCheck.Proofs.Client.Authorization
import ScanCheck.Proofs.Config.Overrides
import ScanCheck.Proofs.Harness.Requests

namespace ScanCheck

open Overrides

/-- The same lookup with no text for one setting. -/
def Lookup.without (lookup : Lookup) (name : String) : Lookup := fun other =>
  if other = name then none else lookup other

/-- The client of a service before and after overrides. -/
inductive ClientReached (lookup : Lookup) (config : HarnessConfig) (service : String) :
    Except HarnessError ClientConfig → Except HarnessError ClientConfig → Prop
  | unknown : ClientReached lookup config service (.error (.unknownService service)) (.error (.unknownService service))
  | known {endpoint : ServiceEndpoint} {before after : ClientConfig}
      (found : config.services.get? service = some endpoint)
      (own : ∀ host, endpoint.host = some host → after.baseUrl = before.baseUrl)
      (shared : endpoint.host = none → after.baseUrl = config.scheme ++ "://" ++
        (lookup "SCAN_HARNESS_HOST").getD config.host ++ ":" ++ Decimal.text endpoint.port.toNat)
      (username : after.username = before.username) (password : after.password = before.password)
      (headers : after.headers = before.headers) : ClientReached lookup config service (.ok before) (.ok after)

/-- Submissions to a service under two configurations, which differ in nothing but the address and the name in
the path. -/
inductive Redirected (service front : String) (config after : HarnessConfig) :
    Except HarnessError Request → Except HarnessError Request → Prop
  | unknown (before : config.baseUrl service = .error (.unknownService service))
      (afterwards : after.baseUrl service = .error (.unknownService service)) :
      Redirected service front config after (.error (.unknownService service)) (.error (.unknownService service))
  | built {origin address : String} {request : Request} (before : config.baseUrl service = .ok origin)
      (afterwards : after.baseUrl service = .ok address)
      (url : request.url = origin ++ (front ++ config.username ++ "/")) :
      Redirected service front config after (.ok request)
        (.ok { request with url := address ++ (front ++ after.username ++ "/") })

theorem Redirected.url {service front address : String} {config after : HarnessConfig}
    {first second : Except HarnessError Request} (redirected : Redirected service front config after first second)
    (known : after.baseUrl service = .ok address) :
    ∃ request, second = .ok request ∧ request.url = address ++ (front ++ after.username ++ "/") := by
  cases redirected with
  | unknown before missing =>
      rw [missing] at known
      cases known
  | built before afterwards =>
      rw [afterwards] at known
      cases known
      exact ⟨_, rfl, rfl⟩

structure SubmissionsRedirected (config after : HarnessConfig) : Prop where
  scans : ∀ payload, Redirected "clamav" "/rest/clamav/scan/" config after
    (Harness.scanRequest config payload) (Harness.scanRequest after payload)
  analyses : ∀ payload, Redirected "klocwork" "/rest/klocwork/submit/" config after
    (Harness.analysisRequest config payload) (Harness.analysisRequest after payload)

section Kept

variable {config after : HarnessConfig} (credentials : after.credentials = config.credentials)

include credentials

theorem credentials_kept (origin address : String) :
    (after.clientAt address).username = (config.clientAt origin).username ∧
      (after.clientAt address).password = (config.clientAt origin).password ∧
      (after.clientAt address).headers = (config.clientAt origin).headers := by
  have username : (after.clientAt address).username = (config.clientAt origin).username := by
    simp only [HarnessConfig.clientAt, credentials]
  have password : (after.clientAt address).password = (config.clientAt origin).password := by
    simp only [HarnessConfig.clientAt, credentials]
  exact ⟨username, password, ClientConfig.headers_congr username password⟩

theorem redirected_kept (services : after.services = config.services) (service front body : String) :
    Redirected service front config after
      (Harness.buildFor config service (front ++ config.username ++ "/") (.ok body))
      (Harness.buildFor after service (front ++ after.username ++ "/") (.ok body)) := by
  rw [Harness.buildFor_eq, Harness.buildFor_eq]
  cases known : config.services.get? service with
  | none =>
      have missing : after.services.get? service = none := services ▸ known
      have before := HarnessConfig.baseUrl_unconfigured known
      have afterwards := HarnessConfig.baseUrl_unconfigured missing
      rw [before, afterwards]
      exact .unknown before afterwards
  | some endpoint =>
      have found : after.services.get? service = some endpoint := services ▸ known
      have before := HarnessConfig.baseUrl_configured known
      have afterwards := HarnessConfig.baseUrl_configured found
      generalize config.scheme ++ "://" ++ _ ++ ":" ++ Decimal.text endpoint.port.toNat = origin at before
      generalize after.scheme ++ "://" ++ _ ++ ":" ++ Decimal.text endpoint.port.toNat = address at afterwards
      have headers := (credentials_kept credentials origin address).2.2
      rw [before, afterwards, Except.map, Except.map, headers]
      exact .built before afterwards rfl

theorem submissions_kept (services : after.services = config.services) : SubmissionsRedirected config after where
  scans payload := redirected_kept credentials services "clamav" "/rest/clamav/scan/"
    (ScanPayload.codec.text payload)
  analyses payload := redirected_kept credentials services "klocwork" "/rest/klocwork/submit/"
    (AnalysisPayload.codec.text payload)

end Kept

/-- What accepted overrides make of the clients and the submissions of a configuration. -/
structure Reach (lookup : Lookup) (config after : HarnessConfig) : Prop where
  clients : ∀ service, ClientReached lookup config service (config.clientConfig service) (after.clientConfig service)
  /-- All clients have the one flag. -/
  flag : ∃ flag, Adopted WritesFlag config.insecureSkipVerify (lookup "SCAN_HARNESS_INSECURE") flag ∧
    ∀ service client, after.clientConfig service = .ok client → client.insecureSkipVerify = flag
  username : after.username = (lookup "SCAN_HARNESS_USERNAME").getD config.username
  submissions : SubmissionsRedirected config after

/-- What the user name of a lookup adds to its other overrides. -/
structure OnlyPaths (unnamed after : HarnessConfig) : Prop where
  addresses : ∀ service, after.baseUrl service = unnamed.baseUrl service
  clients : ∀ service, after.clientConfig service = unnamed.clientConfig service
  submissions : SubmissionsRedirected unnamed after

namespace HarnessConfig

variable {config : HarnessConfig} {lookup : Lookup}

theorem clientReached {after : HarnessConfig} (scheme : after.scheme = config.scheme)
    (credentials : after.credentials = config.credentials) (services : after.services = config.services)
    (host : after.host = (lookup "SCAN_HARNESS_HOST").getD config.host) (service : String) :
    ClientReached lookup config service (config.clientConfig service) (after.clientConfig service) := by
  rw [clientConfig_eq, clientConfig_eq]
  cases known : config.services.get? service with
  | none =>
      have missing : after.services.get? service = none := services ▸ known
      rw [baseUrl_unconfigured known, baseUrl_unconfigured missing]
      exact .unknown
  | some endpoint =>
      have found : after.services.get? service = some endpoint := services ▸ known
      rw [baseUrl_configured known, baseUrl_configured found, scheme, host]
      obtain ⟨username, password, headers⟩ := credentials_kept credentials
        (config.scheme ++ "://" ++ endpoint.host.getD config.host ++ ":" ++ Decimal.text endpoint.port.toNat)
        (config.scheme ++ "://" ++ endpoint.host.getD ((lookup "SCAN_HARNESS_HOST").getD config.host) ++ ":" ++
          Decimal.text endpoint.port.toNat)
      refine .known known ?own ?shared username password headers
      case own =>
        intro host own
        simp only [clientAt, own, Option.getD_some]
      case shared =>
        intro shared
        simp only [clientAt, shared, Option.getD_none]

theorem clientConfig_flag {service : String} {client : ClientConfig}
    (found : config.clientConfig service = .ok client) : client.insecureSkipVerify = config.insecureSkipVerify := by
  rw [clientConfig_eq] at found
  cases address : config.baseUrl service with
  | error error =>
      rw [address] at found
      cases found
  | ok origin =>
      rw [address] at found
      cases found
      rfl

/-- Accepted overrides make a service neither known nor unknown. The client of a service with a host of its own
keeps its address, and that of any other service has the shared host, as it was given. The credentials of all
clients stay what they were, and their flag is one for all. Submissions differ from those before in their address
and in the user name between the slashes of their path, and that name is nowhere else. -/
theorem overrides_reach (accepted : (config.applyOverrides lookup).verdict = .ok ()) :
    let after := (config.applyOverrides lookup).config
    let unnamed := config.applyOverrides (lookup.without "SCAN_HARNESS_USERNAME")
    Reach lookup config after ∧ unnamed.verdict = .ok () ∧ unnamed.config.username = config.username ∧
      after = { unnamed.config with username := (lookup "SCAN_HARNESS_USERNAME").getD config.username } ∧
      OnlyPaths unnamed.config after := by
  have course := config.applyOverrides_course lookup
  generalize config.applyOverrides lookup = left at course accepted
  cases course with
  | delayRefused => cases accepted
  | flagRefused => cases accepted
  | @accepted delay flag delays flags =>
      have without : config.applyOverrides (lookup.without "SCAN_HARNESS_USERNAME") =
          ⟨{ config.overrideNames (lookup.without "SCAN_HARNESS_USERNAME") with
            interCallDelayMs := delay, insecureSkipVerify := flag }, .ok ()⟩ :=
        applyOverrides_of_course (.accepted delays flags)
      intro after unnamed
      have reach : Reach lookup config after := {
        clients := clientReached rfl rfl rfl rfl
        flag := ⟨flag, flags, fun service client found => clientConfig_flag found⟩
        username := rfl
        submissions := submissions_kept rfl rfl }
      rw [show unnamed = _ from without]
      exact ⟨reach, rfl, rfl, rfl, fun _ => rfl, fun _ => rfl, submissions_kept rfl rfl⟩

/-- A service on the shared host, one on its own, and a user name other than that of the credentials. -/
theorem overrides_reach_of_bob :
    let config : HarnessConfig := { HarnessConfig.default with
      credentials := some ⟨"svc", "p:w"⟩
      services := .ofList [(clamav, ⟨none, 5002⟩), (klocwork, ⟨some "10.0.0.9", 6004⟩)] }
    let lookup : Lookup := fun name =>
      [("SCAN_HARNESS_HOST", "[::1]"), ("SCAN_HARNESS_USERNAME", "bob"), ("SCAN_HARNESS_DELAY_MS", "+007"),
        ("SCAN_HARNESS_INSECURE", " Yes")].lookup name
    let after := (config.applyOverrides lookup).config
    (config.applyOverrides lookup).verdict = .ok () ∧
      (∃ request, Harness.scanRequest after ⟨"p", []⟩ = .ok request ∧
        request.url = "http://[::1]:5002/rest/clamav/scan/bob/") ∧
      (∃ request, Harness.analysisRequest after ⟨"p", "c", "u", ""⟩ = .ok request ∧
        request.url = "http://10.0.0.9:6004/rest/klocwork/submit/bob/") ∧
      ∀ service client, after.clientConfig service = .ok client → client.insecureSkipVerify = true := by
  intro config lookup after
  have accepted : (config.applyOverrides lookup).verdict = .ok () := by decide +kernel
  obtain ⟨reach, -⟩ := overrides_reach accepted
  refine ⟨accepted, ?scan, ?analysis, ?flag⟩
  case scan =>
    have address : after.baseUrl "clamav" = .ok "http://[::1]:5002" := by decide +kernel
    obtain ⟨request, built, url⟩ := (reach.submissions.scans ⟨"p", []⟩).url address
    exact ⟨request, built, url.trans (by decide +kernel)⟩
  case analysis =>
    have address : after.baseUrl "klocwork" = .ok "http://10.0.0.9:6004" := by decide +kernel
    obtain ⟨request, built, url⟩ := (reach.submissions.analyses ⟨"p", "c", "u", ""⟩).url address
    exact ⟨request, built, url.trans (by decide +kernel)⟩
  case flag =>
    have given : lookup "SCAN_HARNESS_INSECURE" = some " Yes" := by decide
    have yes : readFlag? " Yes" = some true := by decide +kernel
    obtain ⟨flag, adopted, shared⟩ := reach.flag
    rw [given] at adopted
    cases adopted with
    | read written =>
        rw [readFlag?_eq_some_iff.mpr written] at yes
        exact fun service client found => (shared service client found).trans (Option.some.inj yes)

end HarnessConfig

end ScanCheck
