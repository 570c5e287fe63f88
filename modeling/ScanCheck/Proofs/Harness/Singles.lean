import ScanCheck.Proofs.Harness.Pacing
import ScanCheck.Proofs.Harness.Requests
import ScanCheck.Proofs.Harness.Verdicts

namespace ScanCheck

variable {π σ : Type}

/-- Submits cases one after another, each with the transport as the one before it left it. -/
def submitEach (submit : σ → π → Exchange HarnessError Response σ) :
    List π → σ → Run (List (Except HarnessError Response)) σ
  | [], state => ⟨[], [], state⟩
  | case :: cases, state =>
    let first := submit state case
    let others := submitEach submit cases first.transport
    ⟨first.result :: others.result, first.trace ++ others.trace, others.state⟩

/-- The error of a submission, or else that of the assertion on its response. -/
def asserted (outcome : Except HarnessError Response) : Except HarnessError Unit := do
  let response ← outcome
  assertStatus response 200

/-- The entry of a report says what a submission says and the assertion on its response. -/
structure Tells (index : Nat) (label : String) (outcome : Except HarnessError Response)
    (entry : CaseReport) : Prop where
  index : entry.index = index
  label : entry.label = label
  passed : entry.state = .passed ↔ ∃ response, outcome = .ok response ∧ assertStatus response 200 = .ok ()
  failed : entry.state = .failed ↔ ∃ error, asserted outcome = .error error
  status : entry.status = outcome.toOption.map (·.status)
  silent : asserted outcome = .ok () → entry.error = none
  error : ∀ error, asserted outcome = .error error → entry.error = some error.message

/-- A run of a suite is the same as single submissions of its cases. -/
structure AsSingles (label : π → String) (cases : List π) (run : Run SuiteReport σ)
    (singles : Run (List (Except HarnessError Response)) σ) : Prop where
  sends : singles.trace = (sent run.trace).map .send
  requests : sent run.trace = sent singles.trace
  state : run.state = singles.state
  lengths : run.result.cases.length = cases.length ∧ singles.result.length = cases.length
  entries : ∀ (index : Nat) case outcome entry, cases[index]? = some case →
    singles.result[index]? = some outcome → run.result.cases[index]? = some entry →
      Tells index (label case) outcome entry

/-- A submission sends its request once, or nothing if the service is not configured, and gives back what
the transport made of it. -/
structure SendsOnce (config : HarnessConfig) (service : String) (request : Except HarnessError Request)
    (transport : Transport σ) (state : σ) (exchange : Exchange HarnessError Response σ) : Prop where
  atMostOne : exchange.trace.length ≤ 1
  silent : exchange.trace = [] ↔ config.services.get? service = none
  unconfigured : config.services.get? service = none → exchange = .refused (.unknownService service) state
  configured : config.services.get? service ≠ none → ∃ sent, request = .ok sent ∧
    exchange.trace = [.send sent] ∧ exchange.transport = (transport state sent).2
  answer : ∀ sent response, request = .ok sent → (transport state sent).1 = .ok response →
    exchange.result = .ok response
  failure : ∀ sent error, request = .ok sent → (transport state sent).1 = .error error →
    exchange.result = .error (.client error)

theorem unanswered_tells (index : Nat) (label : String) (error : HarnessError) :
    Tells index label (.error error) (.unanswered index label error) where
  index := rfl
  label := rfl
  passed := by simp [CaseReport.unanswered]
  failed := by simp [CaseReport.unanswered, asserted, bind, Except.bind]
  status := rfl
  silent := by simp [asserted, bind, Except.bind]
  error := by simp [CaseReport.unanswered, asserted, bind, Except.bind]

theorem answered_tells (index : Nat) (label : String) (response : Response) :
    Tells index label (.ok response) (.answered index label response) := by
  by_cases accepted : response.status = 200
  · have verdict : assertStatus response 200 = .ok () := if_pos accepted
    rw [answered_accepted accepted]
    exact {
      index := rfl
      label := rfl
      passed := by simp [verdict]
      failed := by simp [asserted, verdict, bind, Except.bind]
      status := by simp [Except.toOption, accepted]
      silent := fun _ => rfl
      error := by simp [asserted, verdict, bind, Except.bind] }
  · have verdict : assertStatus response 200 =
        .error (.assertionFailed 200 response.status response.text) := if_neg accepted
    have message := assertionFailed_message response.status response.text
    rw [answered_rejected accepted]
    exact {
      index := rfl
      label := rfl
      passed := by simp [verdict]
      failed := by simp [asserted, verdict, bind, Except.bind]
      status := rfl
      silent := by simp [asserted, verdict, bind, Except.bind]
      error := by
        intro error failed
        simp only [asserted, verdict, bind, Except.bind, Except.error.injEq] at failed
        rw [← failed, ← message]
        rfl }

def Turn.outcome : Turn π → Except HarnessError Response
  | .refused _ error => .error error
  | .lost _ _ error => .error (.client error)
  | .answered _ _ response => .ok response

theorem Turn.report_tells (label : π → String) (index : Nat) (turn : Turn π) :
    Tells index (label turn.case) turn.outcome (turn.report label index) := by
  cases turn with
  | refused case error => exact unanswered_tells index (label case) error
  | lost case request error => exact unanswered_tells index (label case) (.client error)
  | answered case request response => exact answered_tells index (label case) response

namespace Harness

variable (harness : Harness σ) (request : π → Except HarnessError Request)

theorem submit_eq_turn (case : π) (state : σ) :
    harness.submit state (request case) =
      let (turn, after) := harness.turn (.ofRequest request) case state
      ⟨turn.outcome, turn.events .zero, after⟩ := by
  unfold submit turn Builder.ofRequest
  cases built : request case with
  | error error => rfl
  | ok sent =>
      cases carried : harness.transport state sent with
      | mk answer after =>
          cases answer <;> simp only [send, carried] <;> rfl

theorem submitEach_eq_turns (cases : List π) (state : σ) :
    submitEach (fun state case => harness.submit state (request case)) cases state =
      let (turns, after) := harness.turns (.ofRequest request) cases state
      ⟨turns.map Turn.outcome, turns.flatMap (Turn.events .zero), after⟩ := by
  induction cases generalizing state with
  | nil => rfl
  | cons case cases ih =>
      simp only [submitEach, turns, ih, List.map_cons, List.flatMap_cons]
      simp only [submit_eq_turn]

theorem runSuite_asSingles (suite : String) (label : π → String) (cases : List π) (state : σ) :
    AsSingles label cases (harness.runSuite suite label (.ofRequest request) cases state)
      (submitEach (fun state case => harness.submit state (request case)) cases state) := by
  have requests : sent (harness.runSuite suite label (.ofRequest request) cases state).trace =
      (harness.turns (.ofRequest request) cases state).1.filterMap Turn.request? := by
    rw [sent_ofRequest, turns_ofRequest]
  have trace := Turn.flatMap_events .zero (harness.turns (.ofRequest request) cases state).1
  have sends := turns_events_of_no_pause (harness.turns (.ofRequest request) cases state).1
  rw [submitEach_eq_turns]
  exact {
    sends := sends.trans (congrArg (List.map Event.send) requests.symm)
    requests := requests.trans ((sent_requests .zero _).symm.trans (congrArg sent trace.symm))
    state := by rw [runSuite_eq_turns]
    lengths := by simp [runSuite_eq_turns]
    entries := by
      intro index case outcome entry given told reported
      have taken := harness.turns_cases (.ofRequest request) cases state
      simp only [runSuite_eq_turns, List.getElem?_mapIdx, List.getElem?_map, Option.map_eq_some_iff] at told reported
      obtain ⟨turn, known, rfl⟩ := told
      obtain ⟨again, same, rfl⟩ := reported
      cases known.symm.trans same
      have own : turn.case = case := by
        rw [← taken, List.getElem?_map, known] at given
        exact Option.some.inj given
      exact own ▸ turn.report_tells label index }

theorem submit_sendsOnce (service path body : String) (state : σ) :
    let request := buildFor harness.config service path (.ok body)
    SendsOnce harness.config service request harness.transport state (harness.submit state request) := by
  intro request
  cases known : harness.config.services.get? service with
  | none =>
      have refused : request = .error (.unknownService service) :=
        buildFor_of_error (HarnessConfig.clientConfig_unconfigured known) path (.ok body)
      rw [refused]
      exact {
        atMostOne := Nat.zero_le 1
        silent := ⟨fun _ => known, fun _ => rfl⟩
        unconfigured := fun _ => rfl
        configured := fun other => absurd known other
        answer := by simp
        failure := by simp }
  | some endpoint =>
      obtain ⟨sent, built⟩ := buildFor_configured known path body
      have result : (harness.submit state (.ok sent)).result =
          (harness.transport state sent).1.mapError .client := rfl
      rw [show request = .ok sent from built]
      exact {
        atMostOne := Nat.le_refl 1
        silent := by simp [submit, send, known]
        unconfigured := by simp [known]
        configured := fun _ => ⟨sent, rfl, rfl, rfl⟩
        answer := by
          intro other response same answered
          cases same
          rw [result, answered]
          rfl
        failure := by
          intro other error same failed
          cases same
          rw [result, failed]
          rfl }

end Harness

/-- To run a suite is to submit its cases one after another and to assert status 200 on each response. A
submission itself sends at most one request, and hands the answer of the transport on as it is. -/
theorem suites_asSingles (harness : Harness σ) :
    (∀ cases state, AsSingles ScanPayload.label cases (harness.runScanSuite cases state)
      (submitEach harness.submitScan cases state)) ∧
    (∀ case state, SendsOnce harness.config "clamav" (Harness.scanRequest harness.config case)
      harness.transport state (harness.submitScan state case)) ∧
    (∀ cases state, AsSingles AnalysisPayload.label cases (harness.runAnalysisSuite cases state)
      (submitEach harness.submitAnalysis cases state)) ∧
    ∀ case state, SendsOnce harness.config "klocwork" (Harness.analysisRequest harness.config case)
      harness.transport state (harness.submitAnalysis state case) := by
  refine ⟨?_, ?_, ?_, ?_⟩
  · intro cases state
    exact harness.runSuite_asSingles (Harness.scanRequest harness.config) clamav ScanPayload.label cases state
  · intro case state
    exact harness.submit_sendsOnce clamav _ (ScanPayload.codec.text case) state
  · intro cases state
    exact harness.runSuite_asSingles (Harness.analysisRequest harness.config) klocwork AnalysisPayload.label
      cases state
  · intro case state
    exact harness.submit_sendsOnce klocwork _ (AnalysisPayload.codec.text case) state

end ScanCheck
