import ScanCheck.Proofs.Harness.Turns

namespace ScanCheck

/-- A call that a suite makes to its surroundings, with what it got back. -/
inductive Contact (π : Type)
  | built (case : π) (result : Except HarnessError Request)
  | carried (request : Request) (answer : Except ClientError Response)

variable {π σ : Type}

/-- The same builder, with a note of every case it is asked about. -/
def Builder.watched (build : Builder σ π) : Builder (σ × List (Contact π)) π :=
  fun (state, seen) case =>
    let (result, state) := build state case
    (result, state, seen ++ [.built case result])

/-- The same transport, with a note of every request it carries out. -/
def Transport.watched (transport : Transport σ) : Transport (σ × List (Contact π)) :=
  fun (state, seen) request =>
    let (answer, state) := transport state request
    (answer, state, seen ++ [.carried request answer])

def Harness.watched (harness : Harness σ) : Harness (σ × List (Contact π)) :=
  ⟨harness.config, harness.transport.watched, harness.interCallDelay⟩

/-- The calls of a turn: one to the builder, and one to the transport if there is a request to send. -/
def Turn.contacts : Turn π → List (Contact π)
  | .refused case error => [.built case (.error error)]
  | .lost case request error => [.built case (.ok request), .carried request (.error error)]
  | .answered case request response => [.built case (.ok request), .carried request (.ok response)]

namespace Event

def isSend : Event → Bool
  | .send _ => true
  | .pause _ => false

def isPause : Event → Bool
  | .send _ => false
  | .pause _ => true

end Event

namespace Harness

variable (harness : Harness σ) (build : Builder σ π)

theorem watched_turn (case : π) (state : σ) (seen : List (Contact π)) :
    harness.watched.turn build.watched case (state, seen) =
      let (turn, after) := harness.turn build case state
      (turn, after, seen ++ turn.contacts) := by
  unfold turn watched Builder.watched Transport.watched
  cases built : build state case with
  | mk result state =>
      cases result with
      | error error => simp [built, Turn.contacts]
      | ok request =>
          cases carried : harness.transport state request with
          | mk answer state => cases answer <;> simp [built, carried, Turn.contacts]

/-- Watching changes no turn, and notes the calls of all turns in their order. -/
theorem watched_turns (cases : List π) (state : σ) (seen : List (Contact π)) :
    harness.watched.turns build.watched cases (state, seen) =
      let (turns, after) := harness.turns build cases state
      (turns, after, seen ++ turns.flatMap Turn.contacts) := by
  induction cases generalizing state seen with
  | nil => simp [turns]
  | cons case cases ih => simp only [turns, watched_turn, ih, List.flatMap_cons, List.append_assoc]

end Harness

/-- A trace in which every request is followed by one pause of the same length. -/
def paced (delay : Duration) (requests : List Request) : List Event :=
  requests.flatMap fun request => [.send request, .pause delay]

theorem turns_events_of_pause {delay : Duration} (waits : delay ≠ .zero) (turns : List (Turn π)) :
    turns.flatMap (Turn.events delay) = paced delay (turns.filterMap Turn.request?) := by
  unfold paced
  induction turns with
  | nil => rfl
  | cons turn turns ih =>
      cases turn <;> simp [Turn.events, Turn.request?, pauses, waits, List.filterMap_cons, ih]

theorem turns_events_of_no_pause (turns : List (Turn π)) :
    turns.flatMap (Turn.events .zero) = (turns.filterMap Turn.request?).map .send := by
  induction turns with
  | nil => rfl
  | cons turn turns ih =>
      cases turn <;> simp [Turn.events, Turn.request?, pauses, List.filterMap_cons, ih]

/-- A request anywhere in a paced trace is followed by one pause, and that by the next request or by
nothing. -/
theorem pause_after_send {delay : Duration} {requests : List Request} {before after : List Event}
    {request : Request} (trace : paced delay requests = before ++ .send request :: after) :
    ∃ rest, after = .pause delay :: rest ∧ ∀ event ∈ rest.head?, event.isSend := by
  induction requests generalizing before with
  | nil => simp [paced] at trace
  | cons first requests ih =>
      change .send first :: .pause delay :: paced delay requests = before ++ .send request :: after at trace
      match before with
      | [] =>
          obtain ⟨-, same⟩ := List.cons.inj trace
          refine ⟨_, same.symm, ?_⟩
          cases requests <;> simp [paced, Event.isSend]
      | [_] => simp at trace
      | _ :: _ :: before =>
          obtain ⟨-, trace⟩ := List.cons.inj trace
          obtain ⟨-, trace⟩ := List.cons.inj trace
          exact ih trace

theorem countP_paced (delay : Duration) (requests : List Request) :
    (paced delay requests).countP Event.isSend = requests.length ∧
      (paced delay requests).countP Event.isPause = requests.length := by
  induction requests with
  | nil => exact ⟨rfl, rfl⟩
  | cons request requests ih =>
      obtain ⟨sends, pauses⟩ := ih
      change (Event.send request :: .pause delay :: paced delay requests).countP _ = _ ∧
        (Event.send request :: .pause delay :: paced delay requests).countP _ = _
      simp [List.countP_cons, Event.isSend, Event.isPause, sends, pauses]

/-- Asked once for every case in its order, the builder fails or gives a request; the transport carries
every such request out once and right then, and no other; and the trace has the request and behind it one
pause, or none if the delay is zero. So with a delay every request, the last one included, is followed by
one pause before the next one, and there are as many pauses as requests. -/
theorem runSuite_paced (harness : Harness σ) (suite : String) (label : π → String) (build : Builder σ π)
    (cases : List π) (state : σ) :
    let run := harness.runSuite suite label build cases state
    let watched := harness.watched.runSuite suite label build.watched cases (state, [])
    (watched.result = run.result ∧ watched.trace = run.trace ∧ watched.state.1 = run.state) ∧
      ∃ turns : List (Turn π),
        turns.map Turn.case = cases ∧
        watched.state.2 = turns.flatMap Turn.contacts ∧
        run.trace = turns.flatMap (Turn.events harness.interCallDelay) ∧
        (harness.interCallDelay ≠ .zero →
          (∀ before request after, run.trace = before ++ .send request :: after →
            ∃ rest, after = .pause harness.interCallDelay :: rest ∧ ∀ event ∈ rest.head?, event.isSend) ∧
          run.trace.countP Event.isPause = run.trace.countP Event.isSend) ∧
        (harness.interCallDelay = .zero → ∀ event ∈ run.trace, event.isSend) := by
  intro run watched
  have plain : run = _ := harness.runSuite_eq_turns label build suite cases state
  have noted : watched = _ :=
    harness.watched.runSuite_eq_turns label build.watched suite cases (state, [])
  rw [Harness.watched_turns] at noted
  have trace : run.trace = (harness.turns build cases state).1.flatMap
      (Turn.events harness.interCallDelay) := by rw [plain]
  refine ⟨by rw [plain, noted]; exact ⟨rfl, rfl, rfl⟩, (harness.turns build cases state).1,
    harness.turns_cases build cases state, by rw [noted]; rfl, trace, ?_, ?_⟩
  · intro waits
    rw [turns_events_of_pause waits] at trace
    refine ⟨fun before request after split => pause_after_send (trace ▸ split), ?_⟩
    rw [trace, (countP_paced _ _).1, (countP_paced _ _).2]
  · intro none event member
    rw [none, turns_events_of_no_pause] at trace
    obtain ⟨request, -, rfl⟩ := List.mem_map.mp (trace ▸ member)
    rfl

end ScanCheck
