import ScanCheck.Harness.Script
import ScanCheck.Proofs.Harness.Turns

namespace ScanCheck

variable {π β σ : Type}

/-- A builder with a state of its own, beside a transport that it knows nothing of. -/
def Builder.apart (build : Builder β π) : Builder (β × σ) π :=
  fun (own, other) case =>
    let (result, own) := build own case
    (result, own, other)

def Builder.attempts (build : Builder β π) : List π → β → List (Except HarnessError Request)
  | [], _ => []
  | case :: cases, own =>
    let (result, own) := build own case
    result :: build.attempts cases own

def issued (attempts : List (Except HarnessError Request)) : List Request :=
  attempts.filterMap Except.toOption

theorem Builder.attempts_ofRequest (request : π → Except HarnessError Request) (cases : List π) (own : β) :
    Builder.attempts (.ofRequest request) cases own = cases.map request := by
  induction cases with
  | nil => rfl
  | cons case cases ih => rw [attempts, List.map_cons, ← ih]; rfl

namespace Harness

variable (harness : Harness σ)

theorem turn_apart (request : π → Except HarnessError Request) (case : π) (own : β) (state : σ) :
    harness.apart.turn (.ofRequest request) case (own, state) =
      let (turn, after) := harness.turn (.ofRequest request) case state
      (turn, own, after) := by
  unfold turn apart Transport.apart Builder.ofRequest
  cases built : request case with
  | error error => rfl
  | ok request =>
      cases carried : harness.transport state request with
      | mk answer state => cases answer <;> simp only [carried]

theorem turns_apart (request : π → Except HarnessError Request) (cases : List π) (own : β) (state : σ) :
    harness.apart.turns (.ofRequest request) cases (own, state) =
      let (turns, after) := harness.turns (.ofRequest request) cases state
      (turns, own, after) := by
  induction cases generalizing state with
  | nil => rfl
  | cons case cases ih => simp only [turns, turn_apart, ih]

theorem turn_apart_own (build : Builder β π) (case : π) (own : β) (state : σ) :
    (harness.apart.turn build.apart case (own, state)).2.1 = (build own case).2 := by
  unfold turn apart Transport.apart Builder.apart
  cases built : build own case with
  | mk attempt after =>
      cases attempt with
      | error error => simp only [built]
      | ok request =>
          cases carried : harness.transport state request with
          | mk answer state => cases answer <;> simp only [built, carried]

theorem turns_apart_requests (build : Builder β π) (cases : List π) (own : β) (state : σ) :
    (harness.apart.turns build.apart cases (own, state)).1.filterMap Turn.request? =
      issued (build.attempts cases own) := by
  induction cases generalizing own state with
  | nil => rfl
  | cons case cases ih =>
      have request := harness.apart.turn_request? build.apart case (own, state)
      have kept := harness.turn_apart_own build case own state
      cases taken : harness.apart.turn build.apart case (own, state) with
      | mk turn after =>
          rw [taken] at request kept
          change turn.request? = (build own case).1.toOption at request
          change after.1 = (build own case).2 at kept
          have others : (harness.apart.turns build.apart cases after).1.filterMap Turn.request? =
              issued (build.attempts cases (build own case).2) := kept ▸ ih after.1 after.2
          simp only [turns, taken, List.filterMap_cons, request, others]
          rfl

theorem trace_apart (suite : String) (label : π → String) (build : Builder β π) (cases : List π) (own : β)
    (state : σ) :
    (harness.apart.runSuite suite label build.apart cases (own, state)).trace =
      (issued (build.attempts cases own)).flatMap fun request =>
        .send request :: pauses harness.interCallDelay := by
  rw [runSuite_eq_turns, ← turns_apart_requests harness build cases own state]
  exact Turn.flatMap_events harness.interCallDelay _

/-- A builder without any state is a builder beside the transport, whatever is put into its place. -/
theorem runSuite_apart (suite : String) (label : π → String) (request : π → Except HarnessError Request)
    (cases : List π) (own : β) (state : σ) :
    (harness.apart.runSuite suite label (.ofRequest request) cases (own, state)).transportOnly =
      harness.runSuite suite label (.ofRequest request) cases state := by
  rw [runSuite_eq_turns, runSuite_eq_turns, turns_apart]
  rfl

end Harness

/-- The case at a position has a request, and it is sent as number `place`, counted from 0. -/
structure Issues (attempts : List (Except HarnessError Request)) (position place : Nat) : Prop where
  built : ∃ request, attempts[position]? = some (.ok request)
  place : (issued (attempts.take position)).length = place

/-- The answer to the request that is sent as number `place`. -/
def Script.answer (script : Script) (place : Nat) (request : Request) : Except ClientError Response :=
  match script[place]? with
  | some reply => reply.answer request.url
  | none => .error (.transport request.url "script exhausted")

theorem Script.transport_eq (script : Script) (request : Request) :
    Script.transport script request = (script.answer 0 request, script.drop 1) := by
  cases script <;> rfl

theorem Script.answer_drop (script : Script) (count place : Nat) (request : Request) :
    Script.answer (script.drop count) place request = script.answer (count + place) request := by
  rw [answer, answer, List.getElem?_drop]

/-- The turn of a case over a script, if `place` requests were sent before. -/
def Turn.scripted (script : Script) (place : Nat) (case : π) : Except HarnessError Request → Turn π
  | .error error => .refused case error
  | .ok request =>
    match script.answer place request with
    | .error error => .lost case request error
    | .ok response => .answered case request response

theorem Turn.scripted_drop (script : Script) (count place : Nat) (case : π)
    (attempt : Except HarnessError Request) :
    Turn.scripted (script.drop count) place case attempt =
      Turn.scripted script (count + place) case attempt := by
  cases attempt with
  | error error => rfl
  | ok request => rw [scripted, scripted, Script.answer_drop]

theorem issued_cons_length (attempt : Except HarnessError Request)
    (attempts : List (Except HarnessError Request)) :
    (issued (attempt :: attempts)).length = (issued [attempt]).length + (issued attempts).length := by
  cases attempt <;> simp [issued, Except.toOption, List.filterMap_cons, Nat.add_comm]

namespace Harness

variable {harness : Harness Script} (build : Builder β π)

theorem turn_scripted (scripted : harness.transport = Script.transport) (case : π) (own : β)
    (script : Script) :
    harness.apart.turn build.apart case (own, script) =
      let (attempt, own) := build own case
      (.scripted script 0 case attempt, own, script.drop (issued [attempt]).length) := by
  simp only [turn, apart, Transport.apart, Builder.apart, scripted, Script.transport_eq]
  cases (build own case).1 with
  | error error => rfl
  | ok request =>
      simp only [Turn.scripted]
      cases script.answer 0 request <;> rfl

/-- Of all replies the turn of a case depends on the one at the place of its own request. -/
theorem turns_scripted (scripted : harness.transport = Script.transport) (cases : List π) (own : β)
    (script : Script) :
    let attempts := build.attempts cases own
    (harness.apart.turns build.apart cases (own, script)).1 =
        ((cases.zip attempts).mapIdx fun position (case, attempt) =>
          .scripted script (issued (attempts.take position)).length case attempt) ∧
      (harness.apart.turns build.apart cases (own, script)).2.2 =
        script.drop (issued attempts).length := by
  induction cases generalizing own script with
  | nil => exact ⟨rfl, rfl⟩
  | cons case cases ih =>
      -- The others see what the first case leaves: the script from the reply behind its own, if it took one.
      obtain ⟨turns, left⟩ := ih (build own case).2 (script.drop (issued [(build own case).1]).length)
      simp only [Harness.turns, Builder.attempts, turn_scripted build scripted, turns, left,
        List.zip_cons_cons, List.mapIdx_cons, List.take_zero, List.take_succ_cons, List.drop_drop,
        Turn.scripted_drop, ← issued_cons_length]
      exact ⟨rfl, trivial⟩

end Harness

theorem issued_append (front back : List (Except HarnessError Request)) :
    issued (front ++ back) = issued front ++ issued back :=
  List.filterMap_append

theorem issued_take_lt {attempts : List (Except HarnessError Request)} {position later : Nat}
    {request : Request} (built : attempts[position]? = some (.ok request)) (before : position < later) :
    (issued (attempts.take position)).length < (issued (attempts.take later)).length := by
  have own : issued (attempts.take (position + 1)) = issued (attempts.take position) ++ [request] := by
    rw [List.take_add_one, built, issued_append]
    rfl
  have front : (attempts.take (position + 1)).Sublist (attempts.take later) :=
    (List.take_prefix_take_left before).sublist
  have length : (issued (attempts.take (position + 1))).length ≤ (issued (attempts.take later)).length :=
    (front.filterMap Except.toOption).length_le
  rw [own, List.length_append, List.length_singleton] at length
  exact length

theorem Issues.getElem?_issued {attempts : List (Except HarnessError Request)} {position place : Nat}
    (issue : Issues attempts position place) :
    ∃ request, attempts[position]? = some (.ok request) ∧ (issued attempts)[place]? = some request := by
  obtain ⟨⟨request, built⟩, place⟩ := issue
  refine ⟨request, built, ?_⟩
  have bound := (List.getElem?_eq_some_iff.mp built).1
  have behind : attempts.drop position = .ok request :: attempts.drop (position + 1) := by
    rw [List.drop_eq_getElem_cons bound, (List.getElem?_eq_some_iff.mp built).2]
  rw [← List.take_append_drop position attempts, issued_append, ← place,
    List.getElem?_append_right (Nat.le_refl _), behind, Nat.sub_self]
  rfl

theorem Issues.unique {attempts : List (Except HarnessError Request)} {position other place : Nat}
    (first : Issues attempts position place) (second : Issues attempts other place) : position = other := by
  obtain ⟨⟨_, built⟩, firstPlace⟩ := first
  obtain ⟨⟨_, otherBuilt⟩, secondPlace⟩ := second
  rcases Nat.lt_trichotomy position other with before | same | after
  · have more := issued_take_lt built before
    omega
  · exact same
  · have more := issued_take_lt otherBuilt after
    omega

/-- The runs of a suite over scripts are isolated if no case has to do with the reply of another. -/
structure Isolated (attempts : List π → List (Except HarnessError Request))
    (run : List π → Script → Run SuiteReport Script) : Prop where
  /-- What is sent and what is waited for is the same over every script. -/
  trace : ∀ cases script other, (run cases script).trace = (run cases other).trace
  sends : ∀ cases script, sent (run cases script).trace = issued (attempts cases)
  issue : ∀ (cases : List π) (script : Script) (position place : Nat),
    Issues (attempts cases) position place → ∃ request,
      (attempts cases)[position]? = some (.ok request) ∧ (sent (run cases script).trace)[place]? = some request
  left : ∀ cases script,
    (run cases script).state = script.drop (sent (run cases script).trace).length
  /-- Every request takes a reply as long as there is one. -/
  consumed : ∀ cases script, script.length - (run cases script).state.length =
    min script.length (sent (run cases script).trace).length
  ownReply : ∀ (cases : List π) (script other : Script) (position place : Nat),
    Issues (attempts cases) position place → script[place]? = other[place]? →
      (run cases script).result.cases[position]? = (run cases other).result.cases[position]?
  /-- No two cases issue the same request, so a reply has at most one case to change. -/
  once : ∀ cases position other place, Issues (attempts cases) position place →
    Issues (attempts cases) other place → position = other
  otherReply : ∀ (cases : List π) (script other : Script) (place position : Nat),
    (∀ index, index ≠ place → script[index]? = other[index]?) → ¬ Issues (attempts cases) position place →
      (run cases script).result.cases[position]? = (run cases other).result.cases[position]?
  /-- A case without a request leaves all replies to the others. -/
  unbuilt : ∀ cases case error script, attempts (cases ++ [case]) = attempts cases ++ [.error error] →
    (run (cases ++ [case]) script).state = (run cases script).state
  unasked : ∀ (cases : List π) (position : Nat) (error : HarnessError) (script other : Script),
    (attempts cases)[position]? = some (.error error) →
      (run cases script).result.cases[position]? = (run cases other).result.cases[position]?

namespace Harness

variable {harness : Harness Script} (suite : String) (label : π → String) (build : Builder β π)

/-- The entry of a case depends on the script through the reply to its own request. -/
theorem entry_of_agree (scripted : harness.transport = Script.transport) (cases : List π) (own : β)
    {script other : Script} {position : Nat}
    (agree : ∀ place, Issues (build.attempts cases own) position place → script[place]? = other[place]?) :
    (harness.apart.runSuite suite label build.apart cases (own, script)).result.cases[position]? =
      (harness.apart.runSuite suite label build.apart cases (own, other)).result.cases[position]? := by
  simp only [runSuite_eq_turns, (turns_scripted build scripted cases own _).1, List.getElem?_mapIdx,
    Option.map_map]
  cases found : (cases.zip (build.attempts cases own))[position]? with
  | none => rfl
  | some pair =>
      obtain ⟨case, attempt⟩ := pair
      obtain ⟨-, attempted⟩ := List.getElem?_zip_eq_some.mp found
      cases attempt with
      | error error => rfl
      | ok request =>
          have same := agree _ ⟨⟨request, attempted⟩, rfl⟩
          simp only [Option.map_some, Function.comp_apply, Turn.scripted, Script.answer, same]

theorem isolated_apart (scripted : harness.transport = Script.transport) (own : β) :
    Isolated (fun cases => build.attempts cases own) fun cases script =>
      (harness.apart.runSuite suite label build.apart cases (own, script)).transportOnly := by
  have sends (cases : List π) (script : Script) :
      sent (harness.apart.runSuite suite label build.apart cases (own, script)).trace =
        issued (build.attempts cases own) := by
    rw [trace_apart, sent_requests]
  have left (cases : List π) (script : Script) :
      (harness.apart.runSuite suite label build.apart cases (own, script)).state.2 =
        script.drop (issued (build.attempts cases own)).length := by
    rw [runSuite_eq_turns]
    exact (turns_scripted build scripted cases own script).2
  exact {
    trace := fun cases script other => by simp only [Run.transportOnly, trace_apart]
    sends := sends
    issue := fun cases script position place issue => by
      obtain ⟨request, built, carried⟩ := issue.getElem?_issued
      exact ⟨request, built, (congrArg (·[place]?) (sends cases script)).trans carried⟩
    left := fun cases script => (left cases script).trans (by rw [← sends cases script]; rfl)
    consumed := fun cases script => by
      simp only [Run.transportOnly, left, sends, List.length_drop]
      omega
    ownReply := fun cases script other position place issue agree =>
      entry_of_agree suite label build scripted cases own fun again same =>
        (issue.place.symm.trans same.place) ▸ agree
    once := fun cases position other place => Issues.unique
    otherReply := fun cases script other place position agree apart =>
      entry_of_agree suite label build scripted cases own fun index issue =>
        agree index fun same => apart (same ▸ issue)
    unbuilt := fun cases case error script failed => by
      have none : issued [.error error] = [] := rfl
      simp only [Run.transportOnly, left, failed, issued_append, none, List.append_nil]
    unasked := fun cases position error script other failed =>
      entry_of_agree suite label build scripted cases own fun place issue => by
        obtain ⟨request, built⟩ := issue.built
        cases failed.symm.trans built }

theorem isolated_ofRequest (scripted : harness.transport = Script.transport)
    (request : π → Except HarnessError Request) :
    Isolated (List.map request) fun cases script =>
      harness.runSuite suite label (.ofRequest request) cases script := by
  -- A builder without a state has any state beside it, so the unit type will do.
  have isolated := isolated_apart suite label (Builder.ofRequest request) scripted ()
  simp only [Builder.attempts_ofRequest] at isolated
  have runs : (fun cases script => (harness.apart.runSuite suite label (Builder.ofRequest request).apart cases
      ((), script)).transportOnly) =
        fun cases script => harness.runSuite suite label (.ofRequest request) cases script :=
    funext fun cases => funext fun script => harness.runSuite_apart suite label request cases () script
  exact runs ▸ isolated

end Harness

/-- Over scripts no case has to do with the reply of another one, in every suite whose builder does not ask
the transport, and so in the suites of scans and of analyses. -/
theorem replies_isolated (config : HarnessConfig) (delay : Duration) :
    let harness : Harness Script := ⟨config, Script.transport, delay⟩
    (∀ {β π : Type} (suite : String) (label : π → String) (build : Builder β π) (own : β),
      Isolated (fun cases => build.attempts cases own) fun cases script =>
        (harness.apart.runSuite suite label build.apart cases (own, script)).transportOnly) ∧
      Isolated (List.map (Harness.scanRequest config)) (fun cases script =>
        harness.runScanSuite cases script) ∧
      Isolated (List.map (Harness.analysisRequest config)) fun cases script =>
        harness.runAnalysisSuite cases script := by
  intro harness
  exact ⟨fun suite label build own => Harness.isolated_apart suite label build rfl own,
    Harness.isolated_ofRequest clamav ScanPayload.label rfl (Harness.scanRequest config),
    Harness.isolated_ofRequest klocwork AnalysisPayload.label rfl (Harness.analysisRequest config)⟩

end ScanCheck
