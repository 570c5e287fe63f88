import ScanCheck.Harness.Session
import ScanCheck.Proofs.Harness.Pacing

namespace ScanCheck

variable {π σ : Type}

namespace Operation

def delay? : Operation → Option Duration
  | .setDelay delay => some delay
  | _ => none

def keepsDelay (operation : Operation) : Bool := operation.delay?.isNone

def runsCases : Operation → Bool
  | .runScan _ | .runAnalysis _ | .runSuite _ _ _ _ _ => true
  | _ => false

end Operation

/-- The pause that was set last, or else that of the configuration. -/
def pauseInForce (config : HarnessConfig) (operations : List Operation) : Duration :=
  (operations.filterMap Operation.delay?).getLast?.getD config.interCallDelay

/-- The harness of a configuration after every pause that was set. -/
def harnessAfter (config : HarnessConfig) (transport : Transport Script) (operations : List Operation) :
    Harness Script :=
  (operations.filterMap Operation.delay?).foldl Harness.withInterCallDelay (.ofConfig config transport)

def unpaused (trace : List Event) : List Event := trace.filter Event.isSend

/-- The results and the requests of the operations that set no pause. -/
def others (operations : List Operation) (steps : List (Outcome × List Event)) :
    List (Outcome × List Event) :=
  ((operations.zip steps).filter (·.1.keepsDelay)).map fun (_, outcome, trace) => (outcome, unpaused trace)

theorem unpaused_append (front back : List Event) : unpaused (front ++ back) = unpaused front ++ unpaused back :=
  List.filter_append front back

theorem others_cons {operation : Operation} (keeps : operation.keepsDelay) (operations : List Operation)
    (outcome : Outcome) (trace : List Event) (steps : List (Outcome × List Event)) :
    others (operation :: operations) ((outcome, trace) :: steps) =
      (outcome, unpaused trace) :: others operations steps := by
  simp [others, keeps]

/-- What an operation has to do with pauses, if `delay` is in force. -/
structure Paced (config : HarnessConfig) (delay : Duration) (operation : Operation) (outcome : Outcome)
    (trace : List Event) : Prop where
  suite : operation.runsCases → trace = (sent trace).flatMap fun request => .send request :: pauses delay
  counted : operation.runsCases → delay ≠ .zero → trace.countP Event.isPause = (sent trace).length
  unhurried : delay = .zero → trace.countP Event.isPause = 0
  other : ¬ operation.runsCases → trace.countP Event.isPause = 0
  length : ∀ length, .pause length ∈ trace → length = delay
  set : ∀ length, operation = .setDelay length → outcome = .delays length config.interCallDelayMs ∧ trace = []

theorem unpaused_eq_sent (trace : List Event) : unpaused trace = (sent trace).map .send := by
  induction trace with
  | nil => rfl
  | cons event trace ih =>
      cases event with
      | send request => exact congrArg (.send request :: ·) ih
      | pause length => exact ih

theorem unpaused_events (delay : Duration) (turns : List (Turn π)) :
    unpaused (turns.flatMap (Turn.events delay)) = (turns.filterMap Turn.request?).map .send := by
  rw [unpaused_eq_sent, Turn.flatMap_events, sent_requests]

theorem events_eq_sent (delay : Duration) (turns : List (Turn π)) :
    turns.flatMap (Turn.events delay) =
      (sent (turns.flatMap (Turn.events delay))).flatMap fun request => .send request :: pauses delay := by
  rw [Turn.flatMap_events, sent_requests]

namespace Harness

variable (harness : Harness σ) (build : Builder σ π)

theorem turns_withInterCallDelay (delay : Duration) (cases : List π) (state : σ) :
    (harness.withInterCallDelay delay).turns build cases state = harness.turns build cases state := by
  induction cases generalizing state with
  | nil => rfl
  | cons case cases ih =>
      have first : (harness.withInterCallDelay delay).turn build case state = harness.turn build case state := rfl
      simp only [turns, first, ih]

theorem runSuite_withInterCallDelay (delay : Duration) (suite : String) (label : π → String)
    (cases : List π) (state : σ) :
    let slow := (harness.withInterCallDelay delay).runSuite suite label build cases state
    let run := harness.runSuite suite label build cases state
    slow.result = run.result ∧ unpaused slow.trace = unpaused run.trace ∧ slow.state = run.state := by
  simp only [runSuite_eq_turns, turns_withInterCallDelay, unpaused_events]
  exact ⟨trivial, trivial, trivial⟩

theorem runSuite_trace (suite : String) (label : π → String) (cases : List π) (state : σ) :
    let trace := (harness.runSuite suite label build cases state).trace
    trace = (sent trace).flatMap fun request => .send request :: pauses harness.interCallDelay := by
  simp only [runSuite_eq_turns]
  exact events_eq_sent _ _

end Harness

section Counting

variable (delay : Duration) (requests : List Request)

theorem countP_pauses (waits : delay ≠ .zero) :
    (requests.flatMap fun request => .send request :: pauses delay).countP Event.isPause = requests.length := by
  have each : (fun request => .send request :: pauses delay) = fun request => [.send request, .pause delay] := by
    simp only [pauses, if_neg waits]
  rw [each]
  exact (countP_paced delay requests).2

theorem countP_no_pauses :
    (requests.flatMap fun request => .send request :: pauses .zero).countP Event.isPause = 0 := by
  rw [List.countP_eq_zero]
  intro event member
  obtain ⟨request, -, inside⟩ := List.mem_flatMap.mp member
  obtain rfl : event = .send request := by simpa [pauses] using inside
  simp [Event.isPause]

theorem eq_of_pause_mem {length : Duration}
    (member : .pause length ∈ requests.flatMap fun request => .send request :: pauses delay) : length = delay := by
  obtain ⟨request, -, inside⟩ := List.mem_flatMap.mp member
  rcases List.mem_cons.mp inside with other | pause
  · cases other
  · unfold pauses at pause
    split at pause
    · cases pause
    · cases List.mem_singleton.mp pause
      rfl

end Counting

def Exchange.OnlySends {ε α : Type} (exchange : Exchange ε α σ) : Prop :=
  ∀ event ∈ exchange.trace, event.isSend

theorem Harness.submit_onlySends (harness : Harness σ) (state : σ) (request : Except HarnessError Request) :
    (harness.submit state request).OnlySends := by
  cases request <;> simp [Exchange.OnlySends, submit, send, Exchange.refused, Event.isSend]

theorem Exchange.OnlySends.andThen {ε φ α β : Type} {exchange : Exchange ε α σ} (sends : exchange.OnlySends)
    (next : Except ε α → Except φ β) : (exchange.andThen next).OnlySends := sends

theorem Client.send_onlySends (client : Client σ) (state : σ) (request : Request) :
    (client.send state request).OnlySends := by
  simp [Exchange.OnlySends, send, Event.isSend]

theorem Client.get_onlySends {α : Type} [Codec.Wording] (client : Client σ) (codec : Codec α) (state : σ)
    (endpoint : String) :
    (client.get codec state endpoint).OnlySends :=
  (client.send_onlySends state (client.config.buildGet endpoint)).andThen _

theorem Client.post_onlySends {α : Type} [Codec.Wording] (client : Client σ) (codec : Codec α) (state : σ)
    (endpoint : String) (payload : Serialized) : (client.post codec state endpoint payload).OnlySends := by
  unfold post
  split
  · simp [Exchange.OnlySends, Exchange.refused]
  · exact (client.send_onlySends state _).andThen _

/-- A step that neither pauses nor sets a pause. -/
structure Step.Prompt (session : Session) (step : Step) : Prop where
  delay : step.session.delay = session.delay
  sends : ∀ event ∈ step.trace, event.isSend

/-- Two steps that differ at most in their pauses. -/
structure Step.Alike (left right : Step) : Prop where
  outcome : left.outcome = right.outcome
  trace : unpaused left.trace = unpaused right.trace
  script : left.session.script = right.session.script
  last : left.session.last = right.session.last

namespace Session

section Prompt

variable {session : Session}

theorem quiet_prompt (outcome : Outcome) : (session.quiet outcome).Prompt session :=
  ⟨rfl, by simp [quiet]⟩

theorem keep_prompt {exchange : Exchange HarnessError Response Script} (sends : exchange.OnlySends) :
    (session.keep exchange).Prompt session := by
  unfold keep
  split <;> exact ⟨rfl, sends⟩

theorem ofCall_prompt {α : Type} {codec : Codec α} {exchange : Exchange ClientError α Script}
    (sends : exchange.OnlySends) : (session.ofCall codec exchange).Prompt session :=
  ⟨rfl, sends⟩

theorem withClient_prompt {config : HarnessConfig} {choice : ClientChoice} {use : ClientConfig → Step}
    (known : ∀ client, (use client).Prompt session) : (session.withClient config choice use).Prompt session := by
  unfold withClient
  split
  · exact known _
  · exact quiet_prompt _

end Prompt

section Alike

variable {delay other : Duration} {script : Script} {last : Option Response}

theorem quiet_alike (outcome : Outcome) :
    (quiet ⟨delay, script, last⟩ outcome).Alike (quiet ⟨other, script, last⟩ outcome) :=
  ⟨rfl, rfl, rfl, rfl⟩

theorem keep_alike (exchange : Exchange HarnessError Response Script) :
    (keep ⟨delay, script, last⟩ exchange).Alike (keep ⟨other, script, last⟩ exchange) := by
  unfold keep
  cases exchange.result <;> exact ⟨rfl, rfl, rfl, rfl⟩

theorem withClient_alike {config : HarnessConfig} {choice : ClientChoice} {use twin : ClientConfig → Step}
    (known : ∀ client, (use client).Alike (twin client)) :
    (withClient ⟨delay, script, last⟩ config choice use).Alike
      (withClient ⟨other, script, last⟩ config choice twin) := by
  unfold withClient
  cases choice.resolve config with
  | error error => exact quiet_alike _
  | ok client => exact known client

theorem ofRun_alike {run twin : Run SuiteReport Script} (result : run.result = twin.result)
    (trace : unpaused run.trace = unpaused twin.trace) (state : run.state = twin.state) :
    (ofRun ⟨delay, script, last⟩ run).Alike (ofRun ⟨other, script, last⟩ twin) :=
  ⟨congrArg Outcome.report result, trace, state, rfl⟩

end Alike

variable [Codec.Wording] (config : HarnessConfig) (transport : Transport Script)

theorem perform_prompt (session : Session) {operation : Operation} (single : ¬ operation.runsCases)
    (keeps : operation.delay? = none) : (session.perform config transport operation).Prompt session := by
  cases operation with
  | scanRequest payload => exact quiet_prompt _
  | analysisRequest payload => exact quiet_prompt _
  | submitScan payload => exact keep_prompt (Harness.submit_onlySends _ _ _)
  | submitAnalysis payload => exact keep_prompt (Harness.submit_onlySends _ _ _)
  | assert expected => exact quiet_prompt _
  | runScan cases => exact absurd rfl single
  | runAnalysis cases => exact absurd rfl single
  | runSuite suite label build own cases => exact absurd rfl single
  | setDelay delay => cases keeps
  | push replies => exact ⟨rfl, by simp [perform]⟩
  | describeClient choice => exact withClient_prompt fun _ => quiet_prompt _
  | build choice plan => exact withClient_prompt fun _ => quiet_prompt _
  | call choice plan codec =>
      refine withClient_prompt fun client => ofCall_prompt ?_
      cases plan with
      | get endpoint => exact Client.get_onlySends _ _ _ _
      | post endpoint payload => exact Client.post_onlySends _ _ _ _ _
  | sendGet choice endpoint =>
      exact withClient_prompt fun client =>
        keep_prompt ((Client.send_onlySends ⟨client, transport⟩ session.script _).andThen _)
  | send choice request =>
      exact withClient_prompt fun client =>
        keep_prompt ((Client.send_onlySends ⟨client, transport⟩ session.script request).andThen _)

theorem perform_suite (session : Session) {operation : Operation} (runs : operation.runsCases) :
    ∃ run, session.perform config transport operation = session.ofRun run ∧
      run.trace = (sent run.trace).flatMap fun request => .send request :: pauses session.delay := by
  cases operation with
  | runScan cases => exact ⟨_, rfl, Harness.runSuite_trace _ _ _ _ _ _⟩
  | runAnalysis cases => exact ⟨_, rfl, Harness.runSuite_trace _ _ _ _ _ _⟩
  | runSuite suite label build own cases =>
      exact ⟨_, rfl, Harness.runSuite_trace (session.harness config transport).apart (build config) suite label
        cases (own, session.script)⟩
  | _ => cases runs

theorem perform_alike (session : Session) {operation : Operation} (keeps : operation.delay? = none) (twin : Session)
    (script : session.script = twin.script) (last : session.last = twin.last) :
    (session.perform config transport operation).Alike (twin.perform config transport operation) := by
  obtain ⟨delay, script, last⟩ := session
  obtain ⟨other, _, _⟩ := twin
  cases script
  cases last
  cases operation with
  | scanRequest payload => exact quiet_alike _
  | analysisRequest payload => exact quiet_alike _
  | submitScan payload => exact keep_alike _
  | submitAnalysis payload => exact keep_alike _
  | assert expected => exact quiet_alike _
  | runScan cases =>
      obtain ⟨result, trace, state⟩ := Harness.runSuite_withInterCallDelay ⟨config, transport, other⟩
        (.ofRequest (Harness.scanRequest config)) delay clamav ScanPayload.label cases script
      exact ofRun_alike result trace state
  | runAnalysis cases =>
      obtain ⟨result, trace, state⟩ := Harness.runSuite_withInterCallDelay ⟨config, transport, other⟩
        (.ofRequest (Harness.analysisRequest config)) delay klocwork AnalysisPayload.label cases script
      exact ofRun_alike result trace state
  | runSuite suite label build own cases =>
      obtain ⟨result, trace, state⟩ := Harness.runSuite_withInterCallDelay
        (Harness.apart ⟨config, transport, other⟩) (build config) delay suite label cases (own, script)
      exact ofRun_alike result trace (congrArg Prod.snd state)
  | setDelay delay => cases keeps
  | push replies => exact ⟨rfl, rfl, rfl, rfl⟩
  | describeClient choice => exact withClient_alike fun _ => quiet_alike _
  | build choice plan => exact withClient_alike fun _ => quiet_alike _
  | call choice plan codec => exact withClient_alike fun _ => ⟨rfl, rfl, rfl, rfl⟩
  | sendGet choice endpoint => exact withClient_alike fun _ => keep_alike _
  | send choice request => exact withClient_alike fun _ => keep_alike _

theorem perform_delay (session : Session) (operation : Operation) :
    (session.perform config transport operation).session.delay = operation.delay?.getD session.delay := by
  by_cases suite : operation.runsCases
  · obtain ⟨run, performed, -⟩ := session.perform_suite config transport suite
    rw [performed]
    cases operation <;> first | rfl | cases suite
  · cases keeps : operation.delay? with
    | none => exact (session.perform_prompt config transport suite keeps).delay
    | some delay =>
        cases operation <;> cases keeps
        rfl

theorem perform_paced (session : Session) (operation : Operation) :
    let step := session.perform config transport operation
    Paced config session.delay operation step.outcome step.trace := by
  intro step
  by_cases suite : operation.runsCases
  · obtain ⟨run, performed, trace⟩ := session.perform_suite config transport suite
    have shown : step.trace = run.trace := congrArg Step.trace performed
    rw [shown]
    exact {
      suite := fun _ => trace
      counted := fun _ waits => (congrArg (List.countP Event.isPause) trace).trans (countP_pauses _ _ waits)
      unhurried := fun none => by
        rw [trace, none]
        exact countP_no_pauses _
      other := fun single => absurd suite single
      length := fun length member => eq_of_pause_mem _ _ (trace ▸ member)
      set := fun length same => by
        subst same
        cases suite }
  · have sends : ∀ event ∈ step.trace, event.isSend := by
      cases keeps : operation.delay? with
      | none => exact (session.perform_prompt config transport suite keeps).sends
      | some delay =>
          cases operation <;> cases keeps
          simp [step, perform]
    have quiet : step.trace.countP Event.isPause = 0 := by
      rw [List.countP_eq_zero]
      intro event member paused
      have sent := sends event member
      cases event <;> simp_all [Event.isSend, Event.isPause]
    exact {
      suite := fun other => absurd other suite
      counted := fun other => absurd other suite
      unhurried := fun _ => quiet
      other := fun _ => quiet
      length := fun length member => by cases sends _ member
      set := fun length same => by
        subst same
        exact ⟨rfl, rfl⟩ }

theorem performAll_length (session : Session) (operations : List Operation) :
    (session.performAll config transport operations).1.length = operations.length := by
  induction operations generalizing session with
  | nil => rfl
  | cons operation operations ih => simp only [performAll, List.length_cons, ih]

theorem performAll_delay (session : Session) (operations : List Operation) :
    (session.performAll config transport operations).2.delay =
      (operations.filterMap Operation.delay?).getLast?.getD session.delay := by
  induction operations generalizing session with
  | nil => rfl
  | cons operation operations ih =>
      rw [performAll, ih, perform_delay]
      cases set : operation.delay? with
      | none => rw [List.filterMap_cons_none set]; rfl
      | some delay => rw [List.filterMap_cons_some set, List.getLast?_cons]; rfl

/-- Every operation is done in the session that those before it leave. -/
theorem performAll_getElem? (session : Session) (operations : List Operation) (index : Nat) :
    (session.performAll config transport operations).1[index]? =
      operations[index]?.map fun operation =>
        let step := (session.performAll config transport (operations.take index)).2.perform config transport operation
        (step.outcome, step.trace) := by
  induction operations generalizing session index with
  | nil => rfl
  | cons operation operations ih =>
      cases index with
      | zero => rfl
      | succ index => simp only [performAll, List.getElem?_cons_succ, List.take_succ_cons, ih]

/-- Operations that set a pause can be left out: nothing but the pauses changes. The induction is over the
operations, for every two pauses in force. -/
theorem performAll_keepsDelay (operations : List Operation) {session twin : Session}
    (script : session.script = twin.script) (last : session.last = twin.last) :
    let all := session.performAll config transport operations
    let kept := twin.performAll config transport (operations.filter Operation.keepsDelay)
    others operations all.1 = kept.1.map (fun (outcome, trace) => (outcome, unpaused trace)) ∧
      unpaused (all.1.flatMap (·.2)) = unpaused (kept.1.flatMap (·.2)) := by
  induction operations generalizing session twin with
  | nil => exact ⟨rfl, rfl⟩
  | cons operation operations ih =>
      cases set : operation.delay? with
      | some length =>
          cases operation <;> cases set
          exact ih script last
      | none =>
          have keeps : operation.keepsDelay := by simp [Operation.keepsDelay, set]
          have alike := session.perform_alike config transport set twin script last
          obtain ⟨steps, whole⟩ := ih alike.script alike.last
          rw [List.filter_cons_of_pos keeps]
          constructor
          · simp only [performAll, others_cons keeps, List.map_cons, alike.outcome, alike.trace]
            exact congrArg _ steps
          · simp only [performAll, List.flatMap_cons, unpaused_append, alike.trace, whole]

end Session

theorem foldl_withInterCallDelay (harness : Harness σ) (delays : List Duration) :
    delays.foldl Harness.withInterCallDelay harness =
      { harness with interCallDelay := delays.getLast?.getD harness.interCallDelay } := by
  induction delays generalizing harness with
  | nil => rfl
  | cons delay delays ih => rw [List.foldl_cons, ih, List.getLast?_cons]; rfl

theorem harnessAfter_eq (config : HarnessConfig) (transport : Transport Script) (operations : List Operation) :
    harnessAfter config transport operations = ⟨config, transport, pauseInForce config operations⟩ :=
  foldl_withInterCallDelay _ _

theorem performAll_paced [Codec.Wording] (config : HarnessConfig) (transport : Transport Script) (script : Script)
    (operations : List Operation) {index : Nat} {operation : Operation} {outcome : Outcome} {trace : List Event}
    (asked : operations[index]? = some operation)
    (done : ((Session.start config script).performAll config transport operations).1[index]? =
      some (outcome, trace)) :
    Paced config (pauseInForce config (operations.take index)) operation outcome trace := by
  rw [Session.performAll_getElem?, asked] at done
  cases done
  have delay : _ = pauseInForce config (operations.take index) :=
    (Session.start config script).performAll_delay config transport (operations.take index)
  rw [← delay]
  exact Session.perform_paced config transport _ operation

/-- Whatever a session does, its harness keeps the configuration, and its pause is the one set last. Suites
pause for it behind each request and nothing else pauses. What else happens does not depend on it. -/
theorem sessions_paced [Codec.Wording] (config : HarnessConfig) (transport : Transport Script) (script : Script) :
    let session (operations : List Operation) :=
      (Session.start config script).performAll config transport operations
    (∀ operations,
      (session operations).2.harness config transport = harnessAfter config transport operations ∧
        (harnessAfter config transport operations).config = config ∧
        (harnessAfter config transport operations).interCallDelay = pauseInForce config operations ∧
        (session operations).1.length = operations.length ∧
        ∀ index operation outcome trace, operations[index]? = some operation →
          (session operations).1[index]? = some (outcome, trace) →
          Paced config (pauseInForce config (operations.take index)) operation outcome trace) ∧
      ∀ first second : List Operation,
        first.filter Operation.keepsDelay = second.filter Operation.keepsDelay →
        others first (session first).1 = others second (session second).1 ∧
          unpaused ((session first).1.flatMap (·.2)) = unpaused ((session second).1.flatMap (·.2)) := by
  intro session
  refine ⟨fun operations => ⟨?_, ?_, ?_, Session.performAll_length _ _ _ _, ?_⟩, fun first second same => ?_⟩
  · rw [harnessAfter_eq, pauseInForce, Session.harness, Session.performAll_delay]
    rfl
  · rw [harnessAfter_eq]
  · rw [harnessAfter_eq]
  · exact fun index operation outcome trace => performAll_paced config transport script operations
  · have kept (operations : List Operation) :=
      (Session.start config script).performAll_keepsDelay config transport operations rfl rfl
    exact ⟨by rw [(kept first).1, (kept second).1, same], by rw [(kept first).2, (kept second).2, same]⟩

theorem sessions_paced_of_setDelay :
    let _ : Codec.Wording := { json := fun _ _ => "", toml := fun _ _ => "" }
    let scans : Operation := .runScan [⟨"p", []⟩]
    let hasty : List Operation := [.setDelay .zero, scans, .submitScan ⟨"q", []⟩]
    let patient : List Operation := [scans, .setDelay (.ofMilliseconds 5), .submitScan ⟨"q", []⟩]
    let script : Script := [.respond ⟨500, utf8 "boom"⟩]
    let session (operations : List Operation) :=
      (Session.start .default script).performAll .default Script.transport operations
    hasty.filter Operation.keepsDelay = patient.filter Operation.keepsDelay ∧
      others hasty (session hasty).1 = others patient (session patient).1 ∧
      unpaused ((session hasty).1.flatMap (·.2)) = unpaused ((session patient).1.flatMap (·.2)) ∧
      (session hasty).1.flatMap (·.2) ≠ (session patient).1.flatMap (·.2) := by
  intro words scans hasty patient script session
  obtain ⟨outcomes, traces⟩ := (sessions_paced .default Script.transport script).2 hasty patient rfl
  exact ⟨rfl, outcomes, traces, by decide +kernel⟩

end ScanCheck
