import ScanCheck.Harness.Suite

/-!
# Turns

What becomes of a case when its turn comes: its request cannot be built, is sent in vain, or is answered.
The turns of a suite determine everything else about its run, so a property of runs is a property of
single turns and of the order in which they are taken.
-/

namespace ScanCheck

/-- What became of one case. -/
inductive Turn (π : Type)
  | refused (case : π) (error : HarnessError)
  | lost (case : π) (request : Request) (error : ClientError)
  | answered (case : π) (request : Request) (response : Response)

namespace Turn

variable {π : Type}

def case : Turn π → π
  | .refused case _ | .lost case _ _ | .answered case _ _ => case

def request? : Turn π → Option Request
  | .refused _ _ => none
  | .lost _ request _ | .answered _ request _ => some request

def events (delay : Duration) : Turn π → List Event
  | .refused _ _ => []
  | .lost _ request _ | .answered _ request _ => .send request :: pauses delay

theorem flatMap_events (delay : Duration) (turns : List (Turn π)) :
    turns.flatMap (events delay) =
      (turns.filterMap request?).flatMap fun request => .send request :: pauses delay := by
  induction turns with
  | nil => rfl
  | cons turn turns ih => cases turn <;> simp [events, request?, List.filterMap_cons, ih]

def report (label : π → String) (index : Nat) : Turn π → CaseReport
  | .refused case error => .unanswered index (label case) error
  | .lost case _ error => .unanswered index (label case) (.client error)
  | .answered case _ response => .answered index (label case) response

end Turn

namespace Harness

variable {π σ : Type}

def turn (harness : Harness σ) (build : Builder σ π) (case : π) (state : σ) : Turn π × σ :=
  match build state case with
  | (.error error, state) => (.refused case error, state)
  | (.ok request, state) =>
    match harness.transport state request with
    | (.error error, state) => (.lost case request error, state)
    | (.ok response, state) => (.answered case request response, state)

/-- The turns of cases in their order, each from the state that the one before it left. -/
def turns (harness : Harness σ) (build : Builder σ π) : List π → σ → List (Turn π) × σ
  | [], state => ([], state)
  | case :: cases, state =>
    let (first, state) := harness.turn build case state
    let (others, state) := harness.turns build cases state
    (first :: others, state)

variable (harness : Harness σ) (label : π → String) (build : Builder σ π)

@[simp] theorem turn_case (case : π) (state : σ) : (harness.turn build case state).1.case = case := by
  unfold turn
  split
  · rfl
  · split <;> rfl

@[simp] theorem turns_cases (cases : List π) (state : σ) :
    (harness.turns build cases state).1.map Turn.case = cases := by
  induction cases generalizing state with
  | nil => rfl
  | cons case cases ih => simp [turns, ih]

@[simp] theorem turns_length (cases : List π) (state : σ) :
    (harness.turns build cases state).1.length = cases.length := by
  rw [← List.length_map Turn.case, turns_cases]

theorem runCase_eq_turn (index : Nat) (case : π) (state : σ) :
    harness.runCase build index (label case) case state =
      let (turn, after) := harness.turn build case state
      ⟨turn.report label index, turn.events harness.interCallDelay, after⟩ := by
  unfold runCase turn
  cases built : build state case with
  | mk result state =>
      cases result with
      | error error => rfl
      | ok request =>
          cases carried : harness.transport state request with
          | mk answer state => cases answer <;> simp [carried, Turn.report, Turn.events]

/-- A run is determined by the turns of its cases. The induction is over the cases, for every index to
count from and every state to start in. -/
theorem runCases_eq_turns (index : Nat) (cases : List π) (state : σ) :
    harness.runCases label build index cases state =
      let (turns, after) := harness.turns build cases state
      ⟨turns.mapIdx fun position turn => turn.report label (index + position),
        turns.flatMap (Turn.events harness.interCallDelay), after⟩ := by
  induction cases generalizing index state with
  | nil => rfl
  | cons case cases ih =>
      simp only [runCases, turns, runCase_eq_turn, ih, List.mapIdx_cons, List.flatMap_cons, Nat.add_zero,
        Nat.add_assoc, Nat.add_comm 1]

theorem runSuite_eq_turns (suite : String) (cases : List π) (state : σ) :
    harness.runSuite suite label build cases state =
      let (turns, after) := harness.turns build cases state
      ⟨⟨suite, turns.mapIdx fun index turn => turn.report label index⟩,
        turns.flatMap (Turn.events harness.interCallDelay), after⟩ := by
  simp only [runSuite, runCases_eq_turns, Nat.zero_add]

/-- The turns of the second part start in the state that those of the first one leave. -/
theorem turns_append (front back : List π) (state : σ) :
    harness.turns build (front ++ back) state =
      let (first, middle) := harness.turns build front state
      let (second, final) := harness.turns build back middle
      (first ++ second, final) := by
  induction front generalizing state with
  | nil => rfl
  | cons case cases ih => simp only [List.cons_append, turns, ih]

theorem turn_request? (case : π) (state : σ) :
    (harness.turn build case state).1.request? = (build state case).1.toOption := by
  unfold turn
  cases built : build state case with
  | mk result state =>
      cases result with
      | error error => rfl
      | ok request =>
          cases carried : harness.transport state request with
          | mk answer state => cases answer <;> simp [carried, Turn.request?, Except.toOption]

theorem turns_ofRequest (request : π → Except HarnessError Request) (cases : List π) (state : σ) :
    (harness.turns (.ofRequest request) cases state).1.filterMap Turn.request? =
      cases.filterMap fun case => (request case).toOption := by
  induction cases generalizing state with
  | nil => rfl
  | cons case cases ih => simp only [turns, List.filterMap_cons, turn_request?, ih, Builder.ofRequest]

end Harness

def Event.request? : Event → Option Request
  | .send request => some request
  | .pause _ => none

def sent (trace : List Event) : List Request := trace.filterMap Event.request?

@[simp] theorem sent_nil : sent [] = [] := rfl

theorem sent_append (front back : List Event) : sent (front ++ back) = sent front ++ sent back :=
  List.filterMap_append

theorem sent_send_pauses (request : Request) (delay : Duration) :
    sent (.send request :: pauses delay) = [request] := by
  unfold pauses
  split <;> rfl

theorem sent_requests (delay : Duration) (requests : List Request) :
    sent (requests.flatMap fun request => .send request :: pauses delay) = requests := by
  induction requests with
  | nil => rfl
  | cons request requests ih => rw [List.flatMap_cons, sent_append, sent_send_pauses, ih]; rfl

namespace Harness

variable {π σ : Type} (harness : Harness σ) (suite : String) (label : π → String)
  (request : π → Except HarnessError Request) (cases : List π) (state : σ)

theorem trace_ofRequest :
    (harness.runSuite suite label (.ofRequest request) cases state).trace =
      (cases.filterMap fun case => (request case).toOption).flatMap fun request =>
        .send request :: pauses harness.interCallDelay := by
  rw [runSuite_eq_turns, ← turns_ofRequest harness request cases state]
  exact Turn.flatMap_events _ _

theorem sent_ofRequest :
    sent (harness.runSuite suite label (.ofRequest request) cases state).trace =
      cases.filterMap fun case => (request case).toOption := by
  rw [trace_ofRequest, sent_requests]

end Harness

/-- The replies of a transport to requests one after the other. -/
def Transport.replies {σ : Type} (transport : Transport σ) : σ → List Request → List (Except ClientError Response)
  | _, [] => []
  | state, request :: requests =>
    (transport state request).1 :: transport.replies (transport state request).2 requests

/-- What requests one after the other leave of a transport. -/
def Transport.after {σ : Type} (transport : Transport σ) (state : σ) (requests : List Request) : σ :=
  requests.foldl (fun state request => (transport state request).2) state

namespace Transport

variable {σ : Type} (transport : Transport σ)

theorem replies_append (state : σ) (front back : List Request) : transport.replies state (front ++ back) =
    transport.replies state front ++ transport.replies (transport.after state front) back := by
  induction front generalizing state with
  | nil => rfl
  | cons request front ih => exact congrArg _ (ih _)

@[simp] theorem length_replies (state : σ) (requests : List Request) :
    (transport.replies state requests).length = requests.length := by
  induction requests generalizing state with
  | nil => rfl
  | cons request requests ih => simp [replies, ih]

/-- Behind other requests a request gets the reply that the transport has for it by then. -/
theorem replies_getElem? (state : σ) (front back : List Request) (request : Request) :
    (transport.replies state (front ++ request :: back))[front.length]? =
      some (transport (transport.after state front) request).1 := by
  rw [replies_append, List.getElem?_append_right (by simp), length_replies, Nat.sub_self]
  rfl

end Transport

end ScanCheck
