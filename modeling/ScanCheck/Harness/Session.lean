import ScanCheck.Harness.Script
import ScanCheck.Harness.Suite

namespace ScanCheck

/-- Which client an operation uses: one with settings of its own, or that of a configured service. -/
inductive ClientChoice
  | settings (config : ClientConfig)
  | service (name : String)
deriving DecidableEq

def ClientChoice.resolve (config : HarnessConfig) : ClientChoice → Except HarnessError ClientConfig
  | .settings client => .ok client
  | .service name => config.clientConfig name

inductive Plan
  | get (endpoint : String)
  | post (endpoint : String) (payload : Serialized)

def Plan.request (plan : Plan) (client : ClientConfig) : Except ClientError Request :=
  match plan with
  | .get endpoint => .ok (client.buildGet endpoint)
  | .post endpoint payload => client.buildPost endpoint payload

/-- A case of a suite whose requests are given one by one. -/
structure CustomCase where
  label : String
  client : ClientChoice
  plan : Plan

def CustomCase.request (config : HarnessConfig) (case : CustomCase) : Except HarnessError Request := do
  let client ← case.client.resolve config
  (case.plan.request client).mapError .client

inductive Operation
  | scanRequest (payload : ScanPayload)
  | analysisRequest (payload : AnalysisPayload)
  | submitScan (payload : ScanPayload)
  | submitAnalysis (payload : AnalysisPayload)
  | assert (expected : UInt16)
  | runScan (cases : List ScanPayload)
  | runAnalysis (cases : List AnalysisPayload)
  /-- A suite with a builder of its own, which may keep a state and look at the script. -/
  | runSuite {β π : Type} (suite : String) (label : π → String)
      (build : HarnessConfig → Builder (β × Script) π) (own : β) (cases : List π)
  | setDelay (delay : Duration)
  | push (replies : Script)
  | describeClient (client : ClientChoice)
  | build (client : ClientChoice) (plan : Plan)
  | call {α : Type} (client : ClientChoice) (plan : Plan) (codec : Codec α)
  | sendGet (client : ClientChoice) (endpoint : String)
  | send (client : ClientChoice) (request : Request)

def Operation.runCustom (suite : String) (cases : List CustomCase) : Operation :=
  .runSuite suite CustomCase.label (fun config => .ofRequest (CustomCase.request config)) () cases

inductive Outcome
  | request (request : Request)
  | response (response : Response)
  | asserted
  | noResponse
  | report (report : SuiteReport)
  | delays (harness : Duration) (config : UInt64)
  | waiting (replies : Nat)
  | description (text : String)
  | value (text : String)
  | failed (error : HarnessError)
deriving DecidableEq

structure Session where
  delay : Duration
  script : Script
  last : Option Response

structure Step where
  outcome : Outcome
  trace : List Event
  session : Session

def Session.start (config : HarnessConfig) (script : Script) : Session :=
  ⟨config.interCallDelay, script, none⟩

namespace Session

def ofRequest : Except HarnessError Request → Outcome
  | .ok request => .request request
  | .error error => .failed error

def quiet (session : Session) (outcome : Outcome) : Step := ⟨outcome, [], session⟩

/-- A response becomes the last one; a failed call leaves the last one alone. -/
def keep (session : Session) (exchange : Exchange HarnessError Response Script) : Step :=
  match exchange.result with
  | .ok response =>
    ⟨.response response, exchange.trace, ⟨session.delay, exchange.transport, some response⟩⟩
  | .error error => ⟨.failed error, exchange.trace, { session with script := exchange.transport }⟩

def ofRun (session : Session) (run : Run SuiteReport Script) : Step :=
  ⟨.report run.result, run.trace, { session with script := run.state }⟩

def withClient (session : Session) (config : HarnessConfig) (choice : ClientChoice)
    (use : ClientConfig → Step) : Step :=
  match choice.resolve config with
  | .ok client => use client
  | .error error => session.quiet (.failed error)

def ofCall {α : Type} (session : Session) (codec : Codec α) (exchange : Exchange ClientError α Script) :
    Step :=
  let outcome := match exchange.result with
    | .ok value => .value (codec.text value)
    | .error error => .failed (.client error)
  ⟨outcome, exchange.trace, { session with script := exchange.transport }⟩

/-- The harness of a session: the configuration stays, and the pause is the one that is in force. -/
def harness (config : HarnessConfig) (transport : Transport Script) (session : Session) : Harness Script :=
  ⟨config, transport, session.delay⟩

def perform [Codec.Wording] (config : HarnessConfig) (transport : Transport Script) (session : Session) :
    Operation → Step
  | .scanRequest payload => session.quiet (ofRequest (Harness.scanRequest config payload))
  | .analysisRequest payload => session.quiet (ofRequest (Harness.analysisRequest config payload))
  | .submitScan payload =>
    session.keep ((session.harness config transport).submitScan session.script payload)
  | .submitAnalysis payload =>
    session.keep ((session.harness config transport).submitAnalysis session.script payload)
  | .assert expected =>
    session.quiet (match session.last with
      | none => .noResponse
      | some response =>
        match assertStatus response expected with
        | .ok () => .asserted
        | .error error => .failed error)
  | .runScan cases => session.ofRun ((session.harness config transport).runScanSuite cases session.script)
  | .runAnalysis cases =>
    session.ofRun ((session.harness config transport).runAnalysisSuite cases session.script)
  | .runSuite suite label build own cases =>
    session.ofRun ((session.harness config transport).apart.runSuite suite label (build config) cases
      (own, session.script)).transportOnly
  | .setDelay delay =>
    let harness := (session.harness config transport).withInterCallDelay delay
    ⟨.delays harness.interCallDelay harness.config.interCallDelayMs, [],
      { session with delay := harness.interCallDelay }⟩
  | .push replies =>
    let script := session.script ++ replies
    ⟨.waiting script.length, [], { session with script }⟩
  | .describeClient choice =>
    session.withClient config choice fun client => session.quiet (.description client.describe)
  | .build choice plan =>
    session.withClient config choice fun client =>
      session.quiet (ofRequest ((plan.request client).mapError .client))
  | .call choice plan codec =>
    session.withClient config choice fun client =>
      session.ofCall codec (match plan with
        | .get endpoint => Client.get ⟨client, transport⟩ codec session.script endpoint
        | .post endpoint payload => Client.post ⟨client, transport⟩ codec session.script endpoint payload)
  | .sendGet choice endpoint =>
    session.withClient config choice fun client =>
      session.keep ((Client.send ⟨client, transport⟩ session.script (client.buildGet endpoint)).andThen
        (·.mapError .client))
  | .send choice request =>
    session.withClient config choice fun client =>
      session.keep ((Client.send ⟨client, transport⟩ session.script request).andThen
        (·.mapError .client))

def performAll [Codec.Wording] (config : HarnessConfig) (transport : Transport Script) (session : Session) :
    List Operation → List (Outcome × List Event) × Session
  | [] => ([], session)
  | operation :: operations =>
    let step := session.perform config transport operation
    let (others, final) := step.session.performAll config transport operations
    ((step.outcome, step.trace) :: others, final)

end Session

end ScanCheck
