import ScanCheck.Proofs.Harness.Verdicts
import ScanCheck.Proofs.Mock.Delivery
import ScanCheck.Proofs.Mock.Requests

/-!
# Suites against the mock services

What a service wants of a case decides the case: it passes and is recorded, or it fails with the words of
the service and leaves no trace in the log. Nothing else about a case matters, and no case matters to
another.
-/

namespace ScanCheck.Mock

/-- The entry of a case in a report, given what was wrong with the case. -/
def verdict (index : Nat) (label : String) : Option String → CaseReport
  | none => { index, label, state := .passed, status := some 200, error := none }
  | some complaint =>
    { index, label, state := .failed, status := some 400,
      error := some ("expected status 200, got 400: " ++ complaint) }

theorem verdict_if (lacks : Prop) [Decidable lacks] (index : Nat) (label complaint : String) :
    verdict index label (if lacks then some complaint else none) =
      if lacks then
        { index, label, state := .failed, status := some 400,
          error := some ("expected status 200, got 400: " ++ complaint) }
      else { index, label, state := .passed, status := some 200, error := none } := by
  split <;> rfl

theorem rejection_message (complaint : String) :
    "expected status 200, got " ++ Decimal.text (400 : UInt16).toNat ++ ": " ++ complaint =
      "expected status 200, got 400: " ++ complaint := by
  have front : "expected status 200, got " ++ Decimal.text (400 : UInt16).toNat ++ ": " =
      "expected status 200, got 400: " := by decide +kernel
  rw [front]

/-- How a harness submits its cases to a service. -/
structure Sender (κ : Type) where
  service : String
  codec : Codec κ
  endpoint : HarnessConfig → String

def scanSender : Sender ScanPayload := ⟨clamav, ScanPayload.codec, Harness.scanEndpoint⟩

def analysisSender : Sender AnalysisPayload := ⟨klocwork, AnalysisPayload.codec, Harness.analysisEndpoint⟩

section Sender

variable {κ : Type} (sender : Sender κ)

def Sender.request (config : HarnessConfig) (case : κ) : Except HarnessError Request :=
  Harness.buildFor config sender.service (sender.endpoint config) (.ofValue sender.codec case)

variable {sender}

theorem Sender.request_built {config : HarnessConfig} {origin : String}
    (address : config.baseUrl sender.service = .ok origin) (case : κ) :
    ∃ request client, sender.request config case = .ok request ∧ request.method = .post ∧
      request.url = origin ++ sender.endpoint config ∧ request.headers = ClientConfig.headers client ∧
      request.body = some (sender.codec.text case) := by
  have client : ∃ client, config.clientConfig sender.service = .ok client ∧ client.baseUrl = origin := by
    unfold HarnessConfig.clientConfig
    rw [address]
    cases config.credentials with
    | none => exact ⟨_, rfl, rfl⟩
    | some credentials => exact ⟨_, rfl, rfl⟩
  obtain ⟨client, found, bound⟩ := client
  refine ⟨.mk .post (client.baseUrl ++ sender.endpoint config) client.headers (some (sender.codec.text case)),
    client, ?_, rfl, by rw [bound], rfl, rfl⟩
  rw [request, Harness.buildFor, found]
  rfl

end Sender

namespace Desk

variable {κ π : Type} (desk : Desk π)

/-- What is kept of a request that is recorded at a position of the log. -/
def submission (ids : Nat → String) (username : String) (position : Nat) (request : π) : Submission :=
  { id := ids position, service := desk.service, username, project := desk.project request }

/-- What becomes of a request, and of the log with it. -/
def outcome (ids : Nat → String) (username : String) (log : Log) (request : π) : Response × Log :=
  match desk.complaint? request with
  | some complaint => (⟨400, utf8 complaint⟩, log)
  | none =>
    let kept := desk.submission ids username log.length request
    (⟨200, utf8 (Submission.codec.text kept)⟩, log ++ [kept])

/-- What is kept of requests, from a position of the log on: one submission for each that is recorded. -/
def submissions (ids : Nat → String) (username : String) (position : Nat) (requests : List π) : Log :=
  (requests.filter fun request => (desk.complaint? request).isNone).mapIdx fun offset request =>
    desk.submission ids username (position + offset) request

variable {desk}

theorem answered_verdict (ids : Nat → String) (index : Nat) (label : String) (username : String) (log : Log)
    (request : π) :
    CaseReport.answered index label (desk.outcome ids username log request).1 =
      verdict index label (desk.complaint? request) := by
  unfold outcome
  cases desk.complaint? request with
  | none => exact answered_accepted rfl index label
  | some complaint =>
      have rejected : (400 : UInt16) ≠ 200 := by decide
      refine (answered_rejected rejected index label).trans ?_
      simp only [Response.text, Bytes.text_utf8, rejection_message, verdict]

theorem submissions_cons (ids : Nat → String) (username : String) (position : Nat) (request : π)
    (requests : List π) :
    desk.submissions ids username position (request :: requests) =
      match desk.complaint? request with
      | some _ => desk.submissions ids username position requests
      | none =>
        desk.submission ids username position request ::
          desk.submissions ids username (position + 1) requests := by
  unfold submissions
  cases judgement : desk.complaint? request with
  | some complaint => rw [List.filter_cons_of_neg (by simp [judgement])]
  | none =>
      rw [List.filter_cons_of_pos (by simp [judgement]), List.mapIdx_cons]
      simp only [Nat.add_zero, Nat.add_assoc, Nat.add_comm 1]

variable {meant : κ → π} {lacks : κ → Prop} [DecidablePred lacks] {complaint : String}

theorem submissions_map (judged : ∀ case, desk.complaint? (meant case) = if lacks case then some complaint else none)
    (ids : Nat → String) (username : String) (position : Nat) (cases : List κ) :
    desk.submissions ids username position (cases.map meant) =
      (cases.filter fun case => ¬ lacks case).mapIdx fun offset case =>
        desk.submission ids username (position + offset) (meant case) := by
  have kept (case : κ) : (desk.complaint? (meant case)).isNone = decide (¬ lacks case) := by
    rw [judged]
    by_cases lacking : lacks case <;> simp [lacking]
  unfold submissions
  rw [List.filter_map]
  simp only [Function.comp_def, kept]
  exact List.ext_getElem? fun index => by simp [Function.comp_def]

variable [Refusal.Wording] {sender : Sender κ} {config : HarnessConfig} {origin : String}

/-- A desk serves a sender: it decodes the texts of cases as requests of its own, and what is sent to the endpoint
reaches it as it was written. -/
structure Serves (desk : Desk π) (sender : Sender κ) (meant : κ → π) : Prop where
  decodes : ∀ case, desk.codec.decode (utf8 (sender.codec.text case)) = .ok (meant case)
  decides : ∀ {config : HarnessConfig} {call : Call} {request : π},
    Target.isPlain config.username.toList = true → call.method = "POST" → call.target = sender.endpoint config →
      call.payload desk.codec = .ok request → demand call = desk.judge config.username request

theorem scanDesk_serves : scanDesk.Serves scanSender ScanRequest.ofPayload where
  decodes := ScanRequest.decode_payload
  decides plain post target body := by
    have routed : Route.find? (scanSender.endpoint _) = _ :=
      Entrance.scan.find?_of_whole (Target.whole_of_isPlain plain)
    rw [demand_scan post (target ▸ routed), decision_read (readUsername_plain plain) body]
    rfl

theorem analysisDesk_serves : analysisDesk.Serves analysisSender SubmitRequest.ofPayload where
  decodes := SubmitRequest.decode_payload
  decides plain post target body := by
    have routed : Route.find? (analysisSender.endpoint _) = _ :=
      Entrance.analysis.find?_of_whole (Target.whole_of_isPlain plain)
    rw [demand_analysis post (target ▸ routed), decision_read (readUsername_plain plain) body]
    rfl

theorem respond_judged (ids : Nat → String) {call : Call} (post : call.method = "POST") {request : π}
    {username : String} (judgement : demand call = desk.judge username request) (log : Log) :
    ((respond ids log call).1.response, (respond ids log call).2) = desk.outcome ids username log request := by
  simp only [respond, judgement, post, seenBy_post, outcome, judge]
  cases desk.complaint? request <;> rfl

theorem turn_answered (serves : desk.Serves sender meant) (address : config.baseUrl sender.service = .ok origin)
    (plain : Target.isPlain config.username.toList = true) {case : κ}
    (fits : (utf8 (sender.codec.text case)).length ≤ bodyLimit) (ids : Nat → String) (delay : Duration)
    (log : Log) :
    ∃ request,
      Harness.turn ⟨config, transport ids origin, delay⟩ (.ofRequest (sender.request config)) case log =
        (.answered case request (desk.outcome ids config.username log (meant case)).1,
          (desk.outcome ids config.username log (meant case)).2) := by
  obtain ⟨request, client, built, method, url, headers, text⟩ := Sender.request_built address case
  refine ⟨request, ?_⟩
  have post : (Call.ofRequest (sender.endpoint config) request).method = "POST" := by
    rw [Call.ofRequest, method]
    rfl
  have arrived : (Call.ofRequest (sender.endpoint config) request).body = utf8 (sender.codec.text case) := by
    rw [Call.ofRequest, text, Option.getD_some]
  have body := payload_decoded (declaresJson_headers headers) arrived fits (serves.decodes case)
  have result := respond_judged ids post (serves.decides plain post rfl body) log
  simp only [Harness.turn, Builder.ofRequest, built, transport_origin ids url log, ← result]

/-- The cases of a run are judged one by one. The induction is over the cases, from every index and every
log on. -/
theorem runCases_judged (serves : desk.Serves sender meant) (address : config.baseUrl sender.service = .ok origin)
    (plain : Target.isPlain config.username.toList = true) (ids : Nat → String) (delay : Duration)
    (label : κ → String) {cases : List κ}
    (fit : ∀ case ∈ cases, (utf8 (sender.codec.text case)).length ≤ bodyLimit) (index : Nat) (log : Log) :
    let run := Harness.runCases ⟨config, transport ids origin, delay⟩ label
      (.ofRequest (sender.request config)) index cases log
    run.result = cases.mapIdx (fun offset case =>
        verdict (index + offset) (label case) (desk.complaint? (meant case))) ∧
      run.state = log ++ desk.submissions ids config.username log.length (cases.map meant) := by
  induction cases generalizing index log with
  | nil => exact ⟨rfl, (List.append_nil log).symm⟩
  | cons case cases ih =>
      obtain ⟨request, turn⟩ :=
        turn_answered serves address plain (fit case List.mem_cons_self) ids delay log
      have first : (Harness.mk config (transport ids origin) delay).runCase
          (.ofRequest (sender.request config)) index (label case) case log =
          ⟨verdict index (label case) (desk.complaint? (meant case)), .send request :: pauses delay,
            (desk.outcome ids config.username log (meant case)).2⟩ := by
        rw [Harness.runCase_eq_turn, turn,
          ← answered_verdict ids index (label case) config.username log (meant case)]
        rfl
      obtain ⟨entries, recorded⟩ := ih (fun other member => fit other (List.mem_cons_of_mem _ member))
        (index + 1) (desk.outcome ids config.username log (meant case)).2
      simp only [Harness.runCases, first]
      refine ⟨?_, ?_⟩
      · rw [entries, List.mapIdx_cons]
        simp only [Nat.add_zero, Nat.add_assoc, Nat.add_comm 1]
      · rw [recorded, List.map_cons, submissions_cons]
        unfold outcome
        cases desk.complaint? (meant case) with
        | some complaint => rfl
        | none =>
            simp only [List.length_append, List.length_singleton, List.append_assoc, List.singleton_append]

/-- A suite whose service complains of one thing: the cases with this fault fail, and the others are recorded. -/
theorem runSuite_judged (serves : desk.Serves sender meant) (address : config.baseUrl sender.service = .ok origin)
    (plain : Target.isPlain config.username.toList = true)
    (judged : ∀ case, desk.complaint? (meant case) = if lacks case then some complaint else none)
    (ids : Nat → String) (delay : Duration) (suite : String) (label : κ → String) {cases : List κ}
    (fit : ∀ case ∈ cases, (utf8 (sender.codec.text case)).length ≤ bodyLimit) (log : Log) :
    let run := Harness.runSuite ⟨config, transport ids origin, delay⟩ suite label (.ofRequest (sender.request config))
      cases log
    run.result = ⟨suite, cases.mapIdx fun index case =>
        if lacks case then
          { index, label := label case, state := .failed, status := some 400,
            error := some ("expected status 200, got 400: " ++ complaint) }
        else { index, label := label case, state := .passed, status := some 200, error := none }⟩ ∧
      run.state = log ++ (cases.filter fun case => ¬ lacks case).mapIdx fun offset case =>
        desk.submission ids config.username (log.length + offset) (meant case) := by
  obtain ⟨entries, recorded⟩ := runCases_judged serves address plain ids delay label fit 0 log
  simp only [Nat.zero_add, judged, verdict_if] at entries
  rw [submissions_map judged] at recorded
  exact ⟨congrArg (SuiteReport.mk suite) entries, recorded⟩

end Desk

theorem isPlain_of_name {username : String}
    (name : ∀ char ∈ username.toList, char.isAlphanum = true ∨ char = '-' ∨ char = '_') :
    Target.isPlain username.toList = true := by
  refine List.all_eq_true.mpr fun char member => ?_
  have other (mark : Char) (special : ¬ (mark.isAlphanum = true ∨ mark = '-' ∨ mark = '_')) :
      char ≠ mark := by
    rintro rfl
    exact special (name char member)
  simp [Target.marks, other '/' (by decide), other '?' (by decide), other '#' (by decide), other '%' (by decide)]

theorem baseUrl_of_contains {config : HarnessConfig} {service : String}
    (configured : config.services.contains service = true) :
    ∃ origin, config.baseUrl service = .ok origin := by
  obtain ⟨endpoint, found⟩ := Option.isSome_iff_exists.mp configured
  exact ⟨_, by rw [HarnessConfig.baseUrl, found]⟩

theorem complaint?_scan (case : ScanPayload) : scanDesk.complaint? (.ofPayload case) =
    if case.components = [] then some "components must not be empty" else none := by
  simp only [scanDesk, ScanRequest.ofPayload, List.map_eq_nil_iff]

theorem complaint?_analysis (case : AnalysisPayload) : analysisDesk.complaint? (.ofPayload case) =
    if case.component = "" ∨ case.url = "" then some "component and url are required" else none :=
  rfl

/-- Suites that are run against the mock services, from any log on: a case fails exactly if it lacks what
its service asks for, and then with the words of the service, and the log grows by one submission for every
case that passes, in their order. -/
theorem suites_judged [Refusal.Wording] (config : HarnessConfig) (delay : Duration) (ids : Nat → String) (log : Log)
    (scanner : config.services.contains clamav = true)
    (analyser : config.services.contains klocwork = true)
    (name : ∀ char ∈ config.username.toList, char.isAlphanum = true ∨ char = '-' ∨ char = '_')
    (scans : List ScanPayload) (analyses : List AnalysisPayload)
    (scansFit : ∀ case ∈ scans, (utf8 (ScanPayload.codec.text case)).length ≤ bodyLimit)
    (analysesFit : ∀ case ∈ analyses, (utf8 (AnalysisPayload.codec.text case)).length ≤ bodyLimit) :
    (∃ origin, config.baseUrl clamav = .ok origin ∧
      let run := Harness.runScanSuite ⟨config, transport ids origin, delay⟩ scans log
      run.result = ⟨clamav, scans.mapIdx fun index case =>
        if case.components = [] then
          { index, label := case.label, state := .failed, status := some 400,
            error := some "expected status 200, got 400: components must not be empty" }
        else { index, label := case.label, state := .passed, status := some 200, error := none }⟩ ∧
      run.state = log ++ (scans.filter fun case => case.components ≠ []).mapIdx fun offset case =>
        { id := ids (log.length + offset), service := clamav, username := config.username,
          project := case.project }) ∧
    (∃ origin, config.baseUrl klocwork = .ok origin ∧
      let run := Harness.runAnalysisSuite ⟨config, transport ids origin, delay⟩ analyses log
      run.result = ⟨klocwork, analyses.mapIdx fun index case =>
        if case.component = "" ∨ case.url = "" then
          { index, label := case.label, state := .failed, status := some 400,
            error := some "expected status 200, got 400: component and url are required" }
        else { index, label := case.label, state := .passed, status := some 200, error := none }⟩ ∧
      run.state = log ++ (analyses.filter fun case => ¬ (case.component = "" ∨ case.url = "")).mapIdx
        fun offset case =>
          { id := ids (log.length + offset), service := klocwork, username := config.username,
            project := case.project }) := by
  have plain := isPlain_of_name name
  have noComponents : "expected status 200, got 400: " ++ "components must not be empty" =
      "expected status 200, got 400: components must not be empty" := by decide +kernel
  have noSource : "expected status 200, got 400: " ++ "component and url are required" =
      "expected status 200, got 400: component and url are required" := by decide +kernel
  refine ⟨?_, ?_⟩
  · obtain ⟨origin, address⟩ := baseUrl_of_contains scanner
    rw [← noComponents]
    exact ⟨origin, address, Desk.runSuite_judged Desk.scanDesk_serves address plain complaint?_scan ids delay clamav
      ScanPayload.label scansFit log⟩
  · obtain ⟨origin, address⟩ := baseUrl_of_contains analyser
    rw [← noSource]
    exact ⟨origin, address, Desk.runSuite_judged Desk.analysisDesk_serves address plain complaint?_analysis ids delay
      klocwork AnalysisPayload.label analysesFit log⟩

/-- Of two scans the one without components fails and the other one is recorded. -/
theorem suites_judged_default :
    let _ : Refusal.Wording := { words := fun _ _ => "" }
    let scans : List ScanPayload := [⟨"empty", []⟩, ⟨"filled", [⟨"tdvf", "code", "master", "https://example/repo"⟩]⟩]
    let analyses : List AnalysisPayload := [⟨"p", "tdvf", "https://example/repo", ""⟩, ⟨"q", "tdvf", "", ""⟩]
    (∃ origin, HarnessConfig.default.baseUrl clamav = .ok origin ∧
      let run := Harness.runScanSuite ⟨.default, transport (fun _ => "first") origin, .zero⟩ scans []
      run.result.cases.map (·.status) = [some 400, some 200] ∧
      run.state = [{ id := "first", service := "clamav", username := "tester", project := "filled" }]) ∧
    (∃ origin, HarnessConfig.default.baseUrl klocwork = .ok origin ∧
      let run := Harness.runAnalysisSuite ⟨.default, transport (fun _ => "first") origin, .zero⟩ analyses []
      run.result.cases.map (·.status) = [some 200, some 400] ∧
      run.state = [{ id := "first", service := "klocwork", username := "tester", project := "p" }]) := by
  intro words scans analyses
  have name : (HarnessConfig.default.username.toList.all fun char =>
      char.isAlphanum || char = '-' || char = '_') = true := by decide +kernel
  obtain ⟨⟨scanner, first, entries, recorded⟩, analyser, second, findings, kept⟩ :=
    suites_judged .default .zero (fun _ => "first") [] (by decide +kernel) (by decide +kernel)
      (fun char member => by simpa [or_assoc] using List.all_eq_true.mp name char member) scans analyses
      (by decide +kernel) (by decide +kernel)
  refine ⟨⟨scanner, first, ?_, recorded⟩, analyser, second, ?_, kept⟩
  · rw [entries]
    rfl
  · rw [findings]
    rfl

end ScanCheck.Mock
