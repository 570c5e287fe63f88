import ScanCheck.Harness.Report

/-!
# Suites

A harness submits cases to the services, one at a time. For every case it builds a request, sends it once,
checks the status of the answer and then waits before the next case. A case whose request cannot be built
fails without a wait, and no failure keeps the following cases from being run.
-/

namespace ScanCheck

/-- A configuration and a transport, and the pause after every call. -/
structure Harness (σ : Type) where
  config : HarnessConfig
  transport : Transport σ
  interCallDelay : Duration

/-- The harness of a configuration, with the pause that the configuration names. -/
def Harness.ofConfig {σ : Type} (config : HarnessConfig) (transport : Transport σ) : Harness σ :=
  ⟨config, transport, config.interCallDelay⟩

/-- Builds the request of a case. What a builder keeps from one case to the next, and what it knows of the
transport, is part of the one state that it shares with the transport. -/
abbrev Builder (σ π : Type) := σ → π → Except HarnessError Request × σ

def Builder.ofRequest {σ π : Type} (request : π → Except HarnessError Request) : Builder σ π :=
  fun state case => (request case, state)

/-- What is left of a run: its result, the events in order, and the state of the builder and the
transport. -/
structure Run (α σ : Type) where
  result : α
  trace : List Event
  state : σ

/-- The events of a pause. A pause of no length does not happen. -/
def pauses (delay : Duration) : List Event := if delay = .zero then [] else [.pause delay]

section Apart

variable {β σ : Type}

/-- A transport that leaves the state of the builder alone. -/
def Transport.apart (transport : Transport σ) : Transport (β × σ) :=
  fun (own, state) request =>
    let (answer, state) := transport state request
    (answer, own, state)

def Harness.apart (harness : Harness σ) : Harness (β × σ) :=
  ⟨harness.config, harness.transport.apart, harness.interCallDelay⟩

def Run.transportOnly {α : Type} (run : Run α (β × σ)) : Run α σ := ⟨run.result, run.trace, run.state.2⟩

end Apart

namespace Harness

variable {π σ : Type}

/-- The same harness with another pause. The configuration keeps its own. -/
def withInterCallDelay (harness : Harness σ) (delay : Duration) : Harness σ :=
  { harness with interCallDelay := delay }

def scanEndpoint (config : HarnessConfig) : String := "/rest/clamav/scan/" ++ config.username ++ "/"

def analysisEndpoint (config : HarnessConfig) : String :=
  "/rest/klocwork/submit/" ++ config.username ++ "/"

def buildFor (config : HarnessConfig) (service endpoint : String) (payload : Serialized) :
    Except HarnessError Request := do
  let client ← config.clientConfig service
  (client.buildPost endpoint payload).mapError .client

def scanRequest (config : HarnessConfig) (payload : ScanPayload) : Except HarnessError Request :=
  buildFor config clamav (scanEndpoint config) (.ofValue ScanPayload.codec payload)

def analysisRequest (config : HarnessConfig) (payload : AnalysisPayload) :
    Except HarnessError Request :=
  buildFor config klocwork (analysisEndpoint config) (.ofValue AnalysisPayload.codec payload)

/-- Carries a request out and gives back the response, whatever its status. -/
def send (harness : Harness σ) (state : σ) (request : Request) : Exchange HarnessError Response σ :=
  let (answer, state) := harness.transport state request
  ⟨answer.mapError .client, [.send request], state⟩

def submit (harness : Harness σ) (state : σ) (request : Except HarnessError Request) :
    Exchange HarnessError Response σ :=
  match request with
  | .error error => .refused error state
  | .ok request => harness.send state request

def submitScan (harness : Harness σ) (state : σ) (payload : ScanPayload) :
    Exchange HarnessError Response σ :=
  harness.submit state (scanRequest harness.config payload)

def submitAnalysis (harness : Harness σ) (state : σ) (payload : AnalysisPayload) :
    Exchange HarnessError Response σ :=
  harness.submit state (analysisRequest harness.config payload)

/-- Runs one case. The pause follows every request that was sent. -/
def runCase (harness : Harness σ) (build : Builder σ π) (index : Nat) (label : String) (case : π)
    (state : σ) : Run CaseReport σ :=
  match build state case with
  | (.error error, state) => ⟨.unanswered index label error, [], state⟩
  | (.ok request, state) =>
    let (answer, state) := harness.transport state request
    let report := match answer with
      | .error error => CaseReport.unanswered index label (.client error)
      | .ok response => .answered index label response
    ⟨report, .send request :: pauses harness.interCallDelay, state⟩

def runCases (harness : Harness σ) (label : π → String) (build : Builder σ π) :
    (index : Nat) → List π → σ → Run (List CaseReport) σ
  | _, [], state => ⟨[], [], state⟩
  | index, case :: cases, state =>
    let first := harness.runCase build index (label case) case state
    let others := harness.runCases label build (index + 1) cases first.state
    ⟨first.result :: others.result, first.trace ++ others.trace, others.state⟩

def runSuite (harness : Harness σ) (suite : String) (label : π → String) (build : Builder σ π)
    (cases : List π) (state : σ) : Run SuiteReport σ :=
  let run := harness.runCases label build 0 cases state
  ⟨⟨suite, run.result⟩, run.trace, run.state⟩

def runScanSuite (harness : Harness σ) (cases : List ScanPayload) (state : σ) : Run SuiteReport σ :=
  harness.runSuite clamav ScanPayload.label (.ofRequest (scanRequest harness.config)) cases state

def runAnalysisSuite (harness : Harness σ) (cases : List AnalysisPayload) (state : σ) :
    Run SuiteReport σ :=
  harness.runSuite klocwork AnalysisPayload.label (.ofRequest (analysisRequest harness.config)) cases state

end Harness

end ScanCheck
