import ScanCheck.Harness.Session
import ScanCheck.Proofs.Harness.Replies

namespace ScanCheck

variable {σ τ : Type}

theorem Script.replies_getElem? (script : Script) (requests : List Request) (place : Nat) :
    (Transport.replies Script.transport script requests)[place]? = requests[place]?.map (script.answer place) := by
  induction requests generalizing script place with
  | nil => rfl
  | cons request requests ih =>
      cases place with
      | zero => simp [Transport.replies, transport_eq]
      | succ place =>
          have later : answer (script.drop 1) place = script.answer (place + 1) := by
            funext request
            rw [answer_drop, Nat.add_comm]
          simp only [Transport.replies, transport_eq, List.getElem?_cons_succ, ih, later]

/-- The result that a reply has: a transport error as it is, and of a response its decoded value. -/
def readReply {α : Type} [Codec.Wording] (codec : Codec α) : Except ClientError Response → Except ClientError α
  | .error error => .error error
  | .ok response => parseJson codec response

theorem eq_take_append_cons {α : Type _} {items : List α} {position : Nat} {item : α}
    (found : items[position]? = some item) : items = items.take position ++ item :: items.drop (position + 1) := by
  obtain ⟨bound, rfl⟩ := List.getElem?_eq_some_iff.mp found
  rw [← List.drop_eq_getElem_cons bound, List.take_append_drop]

/-- A call of a client, and the kind of value that is wanted of it. -/
structure ClientCall where
  {Value : Type}
  client : ClientConfig
  plan : Plan
  codec : Codec Value

/-- A call with its result. -/
structure Returned where
  call : ClientCall
  result : Except ClientError call.Value

/-- What is left of calls: each with its result, the events in order, and the transport. -/
structure CallRun (σ : Type) where
  returned : List Returned
  trace : List Event
  transport : σ

namespace ClientCall

def request (call : ClientCall) : Except ClientError Request := call.plan.request call.client

def run [Codec.Wording] (transport : Transport σ) (call : ClientCall) (state : σ) : Exchange ClientError call.Value σ :=
  match call.plan with
  | .get endpoint => Client.get ⟨call.client, transport⟩ call.codec state endpoint
  | .post endpoint payload => Client.post ⟨call.client, transport⟩ call.codec state endpoint payload

/-- Calls one after the other, each from the state that the one before it left. -/
def runAll [Codec.Wording] (transport : Transport σ) : List ClientCall → σ → CallRun σ
  | [], state => ⟨[], [], state⟩
  | call :: calls, state =>
    let first := call.run transport state
    let others := runAll transport calls first.transport
    ⟨⟨call, first.result⟩ :: others.returned, first.trace ++ others.trace, others.transport⟩

/-- The requests of the calls that have one. -/
def requests (calls : List ClientCall) : List Request := calls.filterMap fun call => call.request.toOption

variable {transport : Transport σ} (call : ClientCall)

theorem run_of_error [Codec.Wording] {error : ClientError} (unbuilt : call.request = .error error) (state : σ) :
    call.run transport state = ⟨.error error, [], state⟩ := by
  unfold request Plan.request at unbuilt
  unfold run
  cases planned : call.plan with
  | get endpoint =>
      rw [planned] at unbuilt
      cases unbuilt
  | post endpoint payload =>
      rw [planned] at unbuilt
      simp only [Client.post, unbuilt]
      rfl

theorem run_of_ok [Codec.Wording] {request : Request} (built : call.request = .ok request) (state : σ) :
    call.run transport state =
      ⟨readReply call.codec (transport state request).1, [.send request], (transport state request).2⟩ := by
  have reads (reply : Except ClientError Response) :
      (reply >>= parseJson call.codec) = readReply call.codec reply := by
    cases reply <;> rfl
  unfold ClientCall.request Plan.request at built
  unfold run
  cases planned : call.plan with
  | get endpoint =>
      rw [planned] at built
      cases built
      simp only [Client.get, Client.send, Exchange.andThen, reads]
  | post endpoint payload =>
      rw [planned] at built
      simp only [Client.post, built, Client.send, Exchange.andThen, reads]

theorem requests_cons_of_error {error : ClientError} (unbuilt : call.request = .error error)
    (calls : List ClientCall) : requests (call :: calls) = requests calls := by
  simp [requests, unbuilt, Except.toOption]

theorem requests_cons_of_ok {request : Request} (built : call.request = .ok request) (calls : List ClientCall) :
    requests (call :: calls) = request :: requests calls := by
  simp [requests, built, Except.toOption]

theorem requests_append (front back : List ClientCall) : requests (front ++ back) = requests front ++ requests back :=
  List.filterMap_append

variable (transport)

theorem runAll_append [Codec.Wording] (front back : List ClientCall) (state : σ) :
    let first := runAll transport front state
    let second := runAll transport back first.transport
    runAll transport (front ++ back) state =
      ⟨first.returned ++ second.returned, first.trace ++ second.trace, second.transport⟩ := by
  induction front generalizing state with
  | nil => rfl
  | cons call front ih => simp only [List.cons_append, runAll, ih, List.append_assoc]

theorem runAll_returned [Codec.Wording] (calls : List ClientCall) (state : σ) :
    (runAll transport calls state).returned.map Returned.call = calls := by
  induction calls generalizing state with
  | nil => rfl
  | cons call calls ih => simp [runAll, ih]

theorem runAll_sends [Codec.Wording] (calls : List ClientCall) (state : σ) :
    (runAll transport calls state).trace = (requests calls).map .send ∧
      (runAll transport calls state).transport = transport.after state (requests calls) := by
  induction calls generalizing state with
  | nil => exact ⟨rfl, rfl⟩
  | cons call calls ih =>
      cases built : call.request with
      | error error => simp [runAll, run_of_error call built, requests_cons_of_error call built, ih]
      | ok request =>
          simp [runAll, run_of_ok call built, requests_cons_of_ok call built, ih, Transport.after]

/-- A call is run from what the requests before it leave of the transport. -/
theorem runAll_getElem? [Codec.Wording] {calls : List ClientCall} {position : Nat} {call : ClientCall}
    (given : calls[position]? = some call) (state : σ) :
    (runAll transport calls state).returned[position]? =
      some ⟨call, (call.run transport (transport.after state (requests (calls.take position)))).result⟩ := by
  have bound := (List.getElem?_eq_some_iff.mp given).1
  have front : (runAll transport (calls.take position) state).returned.length = position := by
    rw [← List.length_map Returned.call, runAll_returned, List.length_take, Nat.min_eq_left (Nat.le_of_lt bound)]
  have run := runAll_append transport (calls.take position) (call :: calls.drop (position + 1)) state
  rw [← eq_take_append_cons given] at run
  rw [run, List.getElem?_append_right (Nat.le_of_eq front), front, Nat.sub_self, runAll, (runAll_sends ..).2]
  rfl

/-- The request of a call takes the reply at its own place among all requests. -/
theorem requests_getElem? {calls : List ClientCall} {position : Nat} {call : ClientCall} {request : Request}
    (given : calls[position]? = some call) (built : call.request = .ok request) (state : σ) :
    let place := (requests (calls.take position)).length
    (requests calls)[place]? = some request ∧ (transport.replies state (requests calls))[place]? =
      some (transport (transport.after state (requests (calls.take position))) request).1 := by
  have split : requests calls =
      requests (calls.take position) ++ request :: requests (calls.drop (position + 1)) := by
    rw [← requests_cons_of_ok call built, ← requests_append, ← eq_take_append_cons given]
  rw [split]
  exact ⟨by simp, transport.replies_getElem? state _ _ request⟩

/-- Calls over one transport are paired with its replies if each has its own, and nothing of another call's. -/
structure Paired [Codec.Wording] (transport : Transport σ) (calls : List ClientCall) (state : σ) : Prop where
  sends : (runAll transport calls state).trace = (requests calls).map .send
  left : (runAll transport calls state).transport = transport.after state (requests calls)
  returned : (runAll transport calls state).returned.map Returned.call = calls
  unsent : ∀ (position : Nat) (call : ClientCall) (error : ClientError), calls[position]? = some call →
    call.request = .error error → (runAll transport calls state).returned[position]? = some ⟨call, .error error⟩
  answered : ∀ (position : Nat) (call : ClientCall) (request : Request), calls[position]? = some call →
    call.request = .ok request →
    let place := (requests (calls.take position)).length
    (requests calls)[place]? = some request ∧
      ∃ reply, (transport.replies state (requests calls))[place]? = some reply ∧
        (runAll transport calls state).returned[position]? = some ⟨call, readReply call.codec reply⟩
  /-- The same call has the same result among all other calls and over every transport that gives it the reply. -/
  ownReply : ∀ {τ : Type} (another : Transport τ) (others : List ClientCall) (start : τ) (position index : Nat)
    (call : ClientCall), calls[position]? = some call → others[index]? = some call →
    (transport.replies state (requests calls))[(requests (calls.take position)).length]? =
      (another.replies start (requests others))[(requests (others.take index)).length]? →
    (runAll transport calls state).returned[position]? = (runAll another others start).returned[index]?

theorem paired [Codec.Wording] (calls : List ClientCall) (state : σ) : Paired transport calls state where
  sends := (runAll_sends transport calls state).1
  left := (runAll_sends transport calls state).2
  returned := runAll_returned transport calls state
  unsent := by
    intro position call error given unbuilt
    rw [runAll_getElem? transport given, run_of_error call unbuilt]
  answered := by
    intro position call request given built
    obtain ⟨sent, reply⟩ := requests_getElem? transport given built state
    exact ⟨sent, _, reply, by rw [runAll_getElem? transport given, run_of_ok call built]⟩
  ownReply := by
    intro τ another others start position index call given again same
    rw [runAll_getElem? transport given, runAll_getElem? another again]
    cases built : call.request with
    | error error => rw [run_of_error call built, run_of_error call built]
    | ok request =>
        rw [(requests_getElem? transport given built state).2, (requests_getElem? another again built start).2] at same
        rw [run_of_ok call built, run_of_ok call built, Option.some.inj same]

end ClientCall

/-- A call over a transport is one exchange, or none if its payload has no text. -/
structure OneExchange {α : Type} [Codec.Wording] (transport : Transport σ) (client : ClientConfig)
    (codec : Codec α) (state : σ) (endpoint : String) : Prop where
  get : Client.get ⟨client, transport⟩ codec state endpoint =
    let (reply, after) := transport state (client.buildGet endpoint)
    ⟨readReply codec reply, [.send (client.buildGet endpoint)], after⟩
  post : ∀ payload request, client.buildPost endpoint payload = .ok request →
    Client.post ⟨client, transport⟩ codec state endpoint payload =
      let (reply, after) := transport state request
      ⟨readReply codec reply, [.send request], after⟩
  unsent : ∀ payload error, client.buildPost endpoint payload = .error error →
    Client.post ⟨client, transport⟩ codec state endpoint payload = ⟨.error error, [], state⟩

theorem oneExchange {α : Type} [Codec.Wording] (transport : Transport σ) (client : ClientConfig) (codec : Codec α)
    (state : σ) (endpoint : String) : OneExchange transport client codec state endpoint where
  get := ClientCall.run_of_ok ⟨client, .get endpoint, codec⟩ rfl state
  post payload _ built := ClientCall.run_of_ok ⟨client, .post endpoint payload, codec⟩ built state
  unsent payload _ unbuilt := ClientCall.run_of_error ⟨client, .post endpoint payload, codec⟩ unbuilt state

/-- Every call is one exchange with the transport, and in a row of calls each has the reply to its own request. -/
theorem calls_paired [Codec.Wording] (transport : Transport σ) :
    (∀ {α : Type} (client : ClientConfig) (codec : Codec α) (state : σ) (endpoint : String),
      OneExchange transport client codec state endpoint) ∧
    (∀ (calls : List ClientCall) (state : σ), ClientCall.Paired transport calls state) ∧
    ∀ (script : Script) (requests : List Request) (place : Nat),
      (Transport.replies Script.transport script requests)[place]? = requests[place]?.map (script.answer place) :=
  ⟨oneExchange transport, ClientCall.paired transport, Script.replies_getElem?⟩

end ScanCheck
