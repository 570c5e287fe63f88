import ScanCheck.Proofs.Harness.Submissions
import ScanCheck.Proofs.Mock.Delivery
import ScanCheck.Proofs.Text.Lossy

namespace ScanCheck.Mock

/-- The username that is read of a segment. -/
theorem readUsername_eq_ok_iff {segment : List Char} {username : String} :
    readUsername segment = .ok username ↔ Target.unescape (Utf8.encode segment) = utf8 username := by
  rw [readUsername, ← Bytes.text?_eq_some_iff]
  cases Bytes.text? (Target.unescape (Utf8.encode segment)) with
  | none => simp
  | some text => simp

/-- What becomes of the username of a configuration in the path of a request. -/
structure Identified [Refusal.Wording] {π : Type} (config : HarnessConfig) (service : String) (fixed : List String)
    (route : List Char → Route) (endpoint : HarnessConfig → String) (request : π → Except HarnessError Request) :
    Prop where
  sent : ∀ case, ∃ origin built, config.baseUrl service = .ok origin ∧ request case = .ok built ∧
    built.url = origin ++ endpoint config
  /-- The username is one segment of a path exactly if it holds nothing that ends a segment or a path. -/
  path_iff : Target.IsPath (endpoint config).toList (Entrance.segments fixed config.username) ↔
    Target.Whole config.username.toList
  routed : Target.Whole config.username.toList →
    Route.find? (endpoint config) = some (route config.username.toList)
  ownRoute : ∀ found, Route.find? (endpoint config) = some found → ∃ segment, found = route segment
  /-- Of any request, if the endpoint arrives unchanged as its target. -/
  recorded : ∀ (ids : Nat → String) (log : Log) (built : Request),
    let after := (respond ids log (.ofRequest (endpoint config) built)).2
    after = log ∨ ∃ kept, after = log ++ [kept] ∧ kept.service = service ∧
      (Target.Whole config.username.toList →
        utf8 kept.username = Target.unescape (utf8 config.username) ∧
        (kept.username = config.username ↔ ¬ Target.Escaped (utf8 config.username)))

namespace Entrance

variable {service : String} {fixed : List String} {route : List Char → Route} {endpoint : HarnessConfig → String}
  {config : HarnessConfig}

/-- A submission to an endpoint is one to its own service, under the username in the segment of the route. -/
theorem of_submits (entrance : Entrance service fixed route endpoint) {call : Call} {taker name project : String}
    (target : call.target = endpoint config) (submits : call.Submits taker name project) :
    taker = service ∧ ∃ segment, Route.find? (endpoint config) = some (route segment) ∧
      readUsername segment = .ok name := by
  cases submits with
  | scan post found user =>
      rw [target] at found
      obtain ⟨segment, -, same⟩ := entrance.find?_eq_some_iff.mp found
      cases entrance with
      | scan => exact ⟨rfl, _, found, user⟩
      | analysis => cases same
  | analysis post found user =>
      rw [target] at found
      obtain ⟨segment, -, same⟩ := entrance.find?_eq_some_iff.mp found
      cases entrance with
      | scan => cases same
      | analysis => exact ⟨rfl, _, found, user⟩

/-- A whole username is read with its escapes resolved, which leaves it as it is if it has none. -/
theorem username_of_whole (entrance : Entrance service fixed route endpoint) {call : Call} {taker name project : String}
    (target : call.target = endpoint config) (submits : call.Submits taker name project)
    (whole : Target.Whole config.username.toList) : utf8 name = Target.unescape (utf8 config.username) ∧
      (name = config.username ↔ ¬ Target.Escaped (utf8 config.username)) := by
  obtain ⟨-, segment, found, user⟩ := entrance.of_submits target submits
  rw [entrance.find?_of_whole whole] at found
  have same : segment = config.username.toList := by cases entrance <;> simpa using found.symm
  have read : utf8 name = Target.unescape (utf8 config.username) := (readUsername_eq_ok_iff.mp (same ▸ user)).symm
  refine ⟨read, ?_⟩
  rw [← Target.unescape_eq_self_iff, ← read]
  constructor
  · intro kept
    rw [kept]
  · intro kept
    rw [← Bytes.text_utf8 name, kept, Bytes.text_utf8]

theorem identified [Refusal.Wording] (entrance : Entrance service fixed route endpoint) {π : Type}
    {request : π → Except HarnessError Request}
    (sent : ∀ case, ∃ origin built, config.baseUrl service = .ok origin ∧ request case = .ok built ∧
      built.url = origin ++ endpoint config) : Identified config service fixed route endpoint request where
  sent := sent
  path_iff := entrance.isPath_iff
  routed := entrance.find?_of_whole
  ownRoute := by
    intro found led
    obtain ⟨segment, -, same⟩ := entrance.find?_eq_some_iff.mp led
    exact ⟨segment, same⟩
  recorded := by
    intro ids log built
    rcases respond_log ids log (.ofRequest (endpoint config) built) with ⟨-, kept, recorded, -, after⟩ | ⟨-, after⟩
    · obtain ⟨own, -⟩ := entrance.of_submits rfl recorded.submits
      exact .inr ⟨kept, after, own, entrance.username_of_whole rfl recorded.submits⟩
    · exact .inl after

end Entrance

/-- What a valid configuration submits has the endpoint of its service behind the address, with the username in its
place exactly if that is a whole segment, and where the endpoint arrives unchanged no other service takes it. -/
theorem identities_kept [Refusal.Wording] {config : HarnessConfig} (valid : config.validate = .ok ()) :
    Identified config "clamav" ["rest", "clamav", "scan"] .scan Harness.scanEndpoint (Harness.scanRequest config) ∧
    Identified config "klocwork" ["rest", "klocwork", "submit"] .analysis Harness.analysisEndpoint
      (Harness.analysisRequest config) := by
  constructor
  · refine Entrance.scan.identified fun case => ?_
    obtain ⟨request, built, submission⟩ := scanRequest_submission valid case
    obtain ⟨-, origin, -, -, address, url⟩ := submission.url
    exact ⟨origin, request, address, built, url⟩
  · refine Entrance.analysis.identified fun case => ?_
    obtain ⟨request, built, submission⟩ := analysisRequest_submission valid case
    obtain ⟨-, origin, -, -, address, url⟩ := submission.url
    exact ⟨origin, request, address, built, url⟩

theorem identities_kept_of_tester : HarnessConfig.default.validate = .ok () ∧
    Route.find? (Harness.scanEndpoint HarnessConfig.default) = some (.scan "tester".toList) ∧
    Route.find? (Harness.analysisEndpoint HarnessConfig.default) = some (.analysis "tester".toList) := by
  have valid : HarnessConfig.default.validate = .ok () := by decide +kernel
  have whole : Target.Whole HarnessConfig.default.username.toList := Target.whole_of_isPlain (by decide +kernel)
  let words : Refusal.Wording := { words := fun _ _ => "" }
  obtain ⟨scans, analyses⟩ := identities_kept valid
  exact ⟨valid, scans.routed whole, analyses.routed whole⟩

/-- A username with a slash and a question mark passes, is no segment of the path, and is read as another one. -/
theorem identity_lost :
    let config := { HarnessConfig.default with username := "a/?b" }
    config.validate = .ok () ∧
      ¬ Target.IsPath (Harness.scanEndpoint config).toList
        (Entrance.segments ["rest", "clamav", "scan"] config.username) ∧
      Route.find? (Harness.scanEndpoint config) = some (.scan "a".toList) ∧
      readUsername "a".toList = .ok "a" := by
  refine ⟨by decide +kernel, fun made => ?_, by decide +kernel, by decide +kernel⟩
  exact absurd made.noQuery (by decide +kernel)

end ScanCheck.Mock
