import Mathlib.Data.List.Forall2
import ScanCheck.Harness.Script
import ScanCheck.Proofs.Codec.Payloads
import ScanCheck.Proofs.Config.Validation
import ScanCheck.Proofs.Harness.Verdicts

namespace ScanCheck

variable {π σ : Type}

/-- The field by which the credentials of a configuration are sent, if they have a user name. -/
def authorizationHeaders : Option Credentials → List Header
  | none => []
  | some credentials =>
    if credentials.username = "" then []
    else
      let pair := utf8 (credentials.username ++ ":" ++ credentials.password)
      [("authorization", "Basic " ++ String.ofList (Base64.encode pair))]

/-- A request that submits a case to a service, at a path of the service. -/
structure IsSubmission (config : HarnessConfig) (service path : String) (codec : Codec π) (case : π)
    (request : Request) : Prop where
  method : request.method = .post
  /-- The service listens on its own host, or else on the shared one. -/
  url : ∃ endpoint origin, config.services.get? service = some endpoint ∧
    origin = config.scheme ++ "://" ++ endpoint.host.getD config.host ++ ":" ++
      Decimal.text endpoint.port.toNat ∧
    config.baseUrl service = .ok origin ∧ request.url = origin ++ path
  headers : request.headers = ("content-type", "application/json") :: authorizationHeaders config.credentials
  body : ∃ text, request.body = some text ∧ codec.decode (utf8 text) = .ok case

theorem headers_withCredentials (client : ClientConfig) (credentials : Credentials) :
    (client.withCredentials credentials.username credentials.password).headers =
      ("content-type", "application/json") :: authorizationHeaders (some credentials) := by
  unfold ClientConfig.headers ClientConfig.authorization? ClientConfig.withCredentials authorizationHeaders
  by_cases anonymous : credentials.username = ""
  · simp only [if_pos anonymous]
    rfl
  · simp only [if_neg anonymous]
    rfl

theorem clientConfig_of_baseUrl {config : HarnessConfig} {service origin : String}
    (address : config.baseUrl service = .ok origin) :
    ∃ client, config.clientConfig service = .ok client ∧ client.baseUrl = origin ∧
      client.headers = ("content-type", "application/json") :: authorizationHeaders config.credentials := by
  unfold HarnessConfig.clientConfig
  rw [address]
  cases config.credentials with
  | none => exact ⟨_, rfl, rfl, rfl⟩
  | some credentials =>
      exact ⟨_, rfl, rfl, headers_withCredentials _ credentials⟩

theorem buildFor_submission {config : HarnessConfig} {service : String} {endpoint : ServiceEndpoint}
    (known : config.services.get? service = some endpoint) (path : String) {codec : Codec π}
    (faithful : codec.Faithful) (case : π) :
    ∃ request, Harness.buildFor config service path (.ofValue codec case) = .ok request ∧
      IsSubmission config service path codec case request := by
  have address : config.baseUrl service = .ok (config.scheme ++ "://" ++ endpoint.host.getD config.host ++
      ":" ++ Decimal.text endpoint.port.toNat) := by rw [HarnessConfig.baseUrl, known]
  obtain ⟨client, found, bound, headers⟩ := clientConfig_of_baseUrl address
  refine ⟨.mk .post (client.baseUrl ++ path) client.headers (some (codec.text case)), ?_, ?_⟩
  · rw [Harness.buildFor, found]
    rfl
  · exact {
      method := rfl
      url := ⟨endpoint, _, known, rfl, address, by rw [bound]⟩
      headers := headers
      body := ⟨codec.text case, rfl, faithful.decode_text case⟩ }

theorem scanRequest_submission {config : HarnessConfig} (valid : config.validate = .ok ())
    (case : ScanPayload) :
    ∃ request, Harness.scanRequest config case = .ok request ∧ IsSubmission config "clamav"
      ("/rest/clamav/scan/" ++ config.username ++ "/") ScanPayload.codec case request := by
  have required : clamav ∈ HarnessConfig.requiredServices := by decide
  obtain ⟨endpoint, known⟩ := ((HarnessConfig.validate_eq_ok_iff config).mp valid).endpoint required
  exact buildFor_submission known _ ScanPayload.codec_faithful case

theorem analysisRequest_submission {config : HarnessConfig} (valid : config.validate = .ok ())
    (case : AnalysisPayload) :
    ∃ request, Harness.analysisRequest config case = .ok request ∧ IsSubmission config "klocwork"
      ("/rest/klocwork/submit/" ++ config.username ++ "/") AnalysisPayload.codec case request := by
  have required : klocwork ∈ HarnessConfig.requiredServices := by decide
  obtain ⟨endpoint, known⟩ := ((HarnessConfig.validate_eq_ok_iff config).mp valid).endpoint required
  exact buildFor_submission known _ AnalysisPayload.codec_faithful case

/-- The error in the entry of a case, by the reply to its request. -/
def reportedError : Except ClientError Response → Option String
  | .error error => some error.message
  | .ok response =>
    if response.status = 200 then none
    else some (HarnessError.assertionFailed expectedStatus response.status response.text).message

/-- An error in a report is that of the transport, or tells which status was not the expected one. -/
theorem reported_cases {entries : List CaseReport} {replies : List (Except ClientError Response)}
    (errors : entries.map CaseReport.error = replies.map reportedError) {entry : CaseReport} (member : entry ∈ entries)
    {text : String} (reported : entry.error = some text) :
    (∃ error, .error error ∈ replies ∧ text = error.message) ∨
      ∃ response : Response,
        text = (HarnessError.assertionFailed expectedStatus response.status response.text).message := by
  have told : some text ∈ replies.map reportedError := by
    rw [← errors, ← reported]
    exact List.mem_map_of_mem member
  obtain ⟨reply, given, same⟩ := List.mem_map.mp told
  cases reply with
  | error error => exact .inl ⟨error, given, (Option.some.inj same).symm⟩
  | ok response =>
      rw [reportedError] at same
      split at same
      · cases same
      · exact .inr ⟨response, (Option.some.inj same).symm⟩

theorem answered_error (index : Nat) (label : String) (response : Response) :
    (CaseReport.answered index label response).error = reportedError (.ok response) := by
  by_cases accepted : response.status = 200
  · rw [answered_accepted accepted, reportedError, if_pos accepted]
  · rw [answered_rejected accepted, reportedError, if_neg accepted, assertionFailed_message]

namespace Harness

variable (harness : Harness σ) {request : π → Except HarnessError Request}

theorem runCase_sent {case : π} {sent : Request} (built : request case = .ok sent) (label : π → String) (index : Nat)
    (state : σ) :
    ∃ entry, harness.runCase (.ofRequest request) index (label case) case state =
        ⟨entry, .send sent :: pauses harness.interCallDelay, (harness.transport state sent).2⟩ ∧
      entry.error = reportedError (harness.transport state sent).1 := by
  rw [runCase_eq_turn]
  simp only [turn, Builder.ofRequest, built]
  cases harness.transport state sent with
  | mk reply after =>
      cases reply with
      | error error => exact ⟨_, rfl, rfl⟩
      | ok response => exact ⟨_, rfl, answered_error index (label case) response⟩

/-- Where every case has a request, the errors of a run are those of the replies to its requests. The induction is
over the cases, from every state on. -/
theorem runCases_errors (built : ∀ case, ∃ sent, request case = .ok sent) (label : π → String) (index : Nat)
    (cases : List π) (state : σ) :
    let run := harness.runCases label (.ofRequest request) index cases state
    run.result.map CaseReport.error = (harness.transport.replies state (sent run.trace)).map reportedError := by
  induction cases generalizing index state with
  | nil => rfl
  | cons case cases ih =>
      obtain ⟨request, made⟩ := built case
      obtain ⟨entry, first, told⟩ := harness.runCase_sent made label index state
      simp only [runCases, first, sent_append, sent_send_pauses, List.singleton_append, Transport.replies,
        List.map_cons, told, ih]

end Harness

theorem letter_append {front : String} {position : Nat} {char : Char} (letter : front.toList[position]? = some char)
    (back : String) : (front ++ back).toList[position]? = some char := by
  rw [String.toList_append, List.getElem?_append_left (List.getElem?_eq_some_iff.mp letter).1, letter]

theorem opening_decimal (number : Nat) :
    ∃ digit, digit.isDigit = true ∧ (Decimal.text number).toList[0]? = some digit := by
  obtain ⟨digit, rest, digits⟩ := List.exists_cons_of_ne_nil (Nat.toDigits_ne_nil (n := number) (b := 10))
  refine ⟨digit, ?_, ?_⟩
  · exact Nat.isDigit_of_mem_toDigits (by decide) (Nat.le_refl 10) (digits ▸ List.mem_cons_self)
  · rw [Decimal.text, String.toList_ofList, Decimal.digits, digits, List.getElem?_cons_zero]

/-- Of all client errors only that of a payload without a text opens like that of an unknown service. -/
theorem ClientError.opening_message {error : ClientError} (other : ∀ words, error ≠ .serialization words) :
    ∃ char, char ≠ 's' ∧ error.message.toList[0]? = some char := by
  cases error with
  | transport url message =>
      have opening : "transport error for ".toList[0]? = some 't' := by decide +kernel
      exact ⟨'t', by decide, letter_append (letter_append (letter_append opening url) ": ") message⟩
  | requestFailed status body =>
      obtain ⟨digit, decimal, opening⟩ := opening_decimal status.toNat
      have letter : digit ≠ 's' := by
        rintro rfl
        cases decimal
      exact ⟨digit, letter, letter_append (letter_append opening ": ") body⟩
  | malformedResponse fault words =>
      have opening : "malformed response body: ".toList[0]? = some 'm' := by decide +kernel
      exact ⟨'m', by decide, letter_append opening words⟩
  | serialization words => exact absurd rfl (other words)

theorem opening_assertionFailed (expected actual : UInt16) (body : String) :
    (HarnessError.assertionFailed expected actual body).message.toList[0]? = some 'e' := by
  have opening : "expected status ".toList[0]? = some 'e' := by decide +kernel
  have front := letter_append (letter_append opening (Decimal.text expected.toNat)) ", got "
  exact letter_append (letter_append (letter_append front (Decimal.text actual.toNat)) ": ") body

theorem opening_unknownService (service : String) :
    (HarnessError.unknownService service).message.toList[0]? = some 's' := by
  have opening : "service ".toList[0]? = some 's' := by decide +kernel
  exact letter_append (letter_append opening (Text.quoted service)) " is not configured"

theorem opening_serialization (words : String) :
    (ClientError.serialization words).message.toList[0]? = some 's' := by
  have opening : "serialization failed: ".toList[0]? = some 's' := by decide +kernel
  exact letter_append opening words

/-- Both texts open with the same letter, and part at the fourth. -/
theorem serialization_message_ne_unknownService (words service : String) :
    (ClientError.serialization words).message ≠ (HarnessError.unknownService service).message := by
  intro same
  have failed : "serialization failed: ".toList[3]? = some 'i' := by decide +kernel
  have unknown : "service ".toList[3]? = some 'v' := by decide +kernel
  have first : (ClientError.serialization words).message.toList[3]? = some 'i' := letter_append failed words
  have second : (HarnessError.unknownService service).message.toList[3]? = some 'v' :=
    letter_append (letter_append unknown (Text.quoted service)) " is not configured"
  rw [same, second] at first
  cases first

theorem ClientError.eq_serialization_of_opening {error : ClientError}
    (opening : error.message.toList[0]? = some 's') : ∃ words, error = .serialization words := by
  by_contra other
  obtain ⟨char, letter, first⟩ := error.opening_message (not_exists.mp other)
  exact letter (Option.some.inj (first.symm.trans opening))

theorem ClientError.eq_serialization_of_message {error : ClientError} {words : String}
    (same : (ClientError.serialization words).message = error.message) : error = .serialization words := by
  obtain ⟨others, rfl⟩ := error.eq_serialization_of_opening (same ▸ opening_serialization words)
  rw [(String.append_right_inj "serialization failed: ").mp same]

theorem ClientError.message_ne_unknownService (error : ClientError) (service : String) :
    error.message ≠ (HarnessError.unknownService service).message := by
  intro same
  obtain ⟨words, rfl⟩ := error.eq_serialization_of_opening (same ▸ opening_unknownService service)
  exact serialization_message_ne_unknownService words service same

theorem assertionFailed_message_ne {text : String} (opening : text.toList[0]? = some 's')
    (expected actual : UInt16) (body : String) :
    text ≠ (HarnessError.assertionFailed expected actual body).message := by
  rintro rfl
  cases (opening_assertionFailed expected actual body).symm.trans opening

/-- The cases of a suite are submitted to a service, and nothing goes wrong before they are. -/
structure Submits (config : HarnessConfig) (service path : String) (codec : Codec π)
    (transport : Transport σ) (state : σ) (cases : List π) (run : Run SuiteReport σ) : Prop where
  /-- There is exactly one request for every case, in their order. -/
  requests : List.Forall₂ (IsSubmission config service path codec) cases (sent run.trace)
  /-- An entry has the error of the reply to its own request, and no other. -/
  errors : run.result.cases.map CaseReport.error = (transport.replies state (sent run.trace)).map reportedError
  unknownService : ∀ entry ∈ run.result.cases, ∀ name,
    entry.error ≠ some (HarnessError.unknownService name).message
  /-- Only a transport that makes up such an error itself, for one of these requests, can put it into a report. -/
  serialization : ∀ entry ∈ run.result.cases, ∀ words, entry.error = some (ClientError.serialization words).message →
    .error (.serialization words) ∈ transport.replies state (sent run.trace)

namespace Harness

variable (harness : Harness σ) {request : π → Except HarnessError Request}

theorem runSuite_submits (suite : String) (label : π → String) {service path : String} {codec : Codec π}
    (built : ∀ case, ∃ sent, request case = .ok sent ∧
      IsSubmission harness.config service path codec case sent) (cases : List π) (state : σ) :
    Submits harness.config service path codec harness.transport state cases
      (harness.runSuite suite label (.ofRequest request) cases state) := by
  choose submission made submits using built
  have errors := harness.runCases_errors (fun case => ⟨submission case, made case⟩) label 0 cases state
  exact {
    requests := by
      have each (case : π) : (request case).toOption = some (submission case) := by rw [made]; rfl
      simp only [sent_ofRequest, each, List.filterMap_eq_map', List.forall₂_map_right_iff, List.forall₂_same]
      exact fun case _ => submits case
    errors := errors
    unknownService := fun entry member name reported => by
      rcases reported_cases errors member reported with ⟨error, -, text⟩ | ⟨response, text⟩
      · exact error.message_ne_unknownService name text.symm
      · exact assertionFailed_message_ne (opening_unknownService name) _ _ _ text
    serialization := fun entry member words reported => by
      rcases reported_cases errors member reported with ⟨error, given, text⟩ | ⟨response, text⟩
      · exact error.eq_serialization_of_message text ▸ given
      · exact absurd text (assertionFailed_message_ne (opening_serialization words) _ _ _) }

end Harness

/-- Under a validated configuration every case of every list is submitted: one request each, in order, to the
address of its service, with the credentials of the configuration and a body that reads back as the case.
No entry of a report tells of an unknown service, and none of a payload without a text unless the transport
says so itself in its reply to one of these requests. -/
theorem validated_suites_submit {config : HarnessConfig} (valid : config.validate = .ok ())
    (transport : Transport σ) (delay : Duration) (scans : List ScanPayload)
    (analyses : List AnalysisPayload) (state : σ) :
    let harness : Harness σ := ⟨config, transport, delay⟩
    Submits config "clamav" ("/rest/clamav/scan/" ++ config.username ++ "/") ScanPayload.codec transport state scans
        (harness.runScanSuite scans state) ∧
      Submits config "klocwork" ("/rest/klocwork/submit/" ++ config.username ++ "/") AnalysisPayload.codec
        transport state analyses (harness.runAnalysisSuite analyses state) := by
  intro harness
  exact ⟨harness.runSuite_submits clamav ScanPayload.label (scanRequest_submission valid) scans state,
    harness.runSuite_submits klocwork AnalysisPayload.label (analysisRequest_submission valid) analyses state⟩

/-- A transport that says itself that a payload has no text is quoted in the report of a valid configuration. -/
theorem serialization_reported :
    let transport : Transport Unit := fun state _ => (.error (.serialization "key must be a string"), state)
    let run := Harness.runScanSuite ⟨.default, transport, .zero⟩ [⟨"p", []⟩] ()
    HarnessConfig.default.validate = .ok () ∧
      run.result.cases.map CaseReport.error = [some "serialization failed: key must be a string"] :=
  ⟨by decide +kernel, by decide +kernel⟩

/-- A service with its own host, one on the shared host, and credentials with a colon in the password. -/
theorem validated_suites_submit_over_https :
    let config : HarnessConfig := { HarnessConfig.default with
      scheme := "https"
      credentials := some ⟨"svc", "p:w"⟩
      services := .ofList [(clamav, ⟨some "10.0.0.9", 1⟩), (klocwork, ⟨none, 65535⟩)] }
    let harness : Harness Unit := ⟨config, unreachable, .zero⟩
    config.validate = .ok () ∧
      (∃ scan, sent (harness.runScanSuite [⟨"a \"b\"", []⟩] ()).trace = [scan] ∧
        scan.url = "https://10.0.0.9:1/rest/clamav/scan/tester/" ∧
        scan.headers = [("content-type", "application/json"), ("authorization", "Basic c3ZjOnA6dw==")]) ∧
      ∃ analysis, sent (harness.runAnalysisSuite [⟨"p", "c", "", "\n"⟩] ()).trace = [analysis] ∧
        analysis.url = "https://127.0.0.1:65535/rest/klocwork/submit/tester/" := by
  intro config harness
  have valid : config.validate = .ok () := by decide +kernel
  obtain ⟨scans, analyses⟩ :=
    validated_suites_submit valid unreachable .zero [⟨"a \"b\"", []⟩] [⟨"p", "c", "", "\n"⟩] ()
  obtain ⟨scan, _, scanned, noScan, onlyScan⟩ := List.forall₂_cons_left_iff.mp scans.requests
  obtain ⟨analysis, _, analysed, noAnalysis, onlyAnalysis⟩ := List.forall₂_cons_left_iff.mp analyses.requests
  rw [List.forall₂_nil_left_iff.mp noScan] at onlyScan
  rw [List.forall₂_nil_left_iff.mp noAnalysis] at onlyAnalysis
  obtain ⟨scanner, _, scannerFound, rfl, -, scanUrl⟩ := scanned.url
  obtain ⟨analyser, _, analyserFound, rfl, -, analysisUrl⟩ := analysed.url
  have scannerKnown : config.services.get? "clamav" = some ⟨some "10.0.0.9", 1⟩ := by decide +kernel
  have analyserKnown : config.services.get? "klocwork" = some ⟨none, 65535⟩ := by decide +kernel
  cases scannerFound.symm.trans scannerKnown
  cases analyserFound.symm.trans analyserKnown
  refine ⟨valid, ⟨scan, onlyScan, scanUrl.trans ?_, scanned.headers.trans ?_⟩, analysis, onlyAnalysis,
    analysisUrl.trans ?_⟩
  · decide +kernel
  · decide +kernel
  · decide +kernel

end ScanCheck
