import ScanCheck.Mock.Application

namespace ScanCheck.Mock

/-- A call that is accepted as a submission: a POST to one of the two routes, whose username and payload
can be read and whose payload has what the service asks for. -/
inductive Call.Submits (call : Call) : (service username project : String) → Prop
  | scan {segment : List Char} {username : String} {request : ScanRequest}
      (post : call.method = "POST") (route : Route.find? call.target = some (.scan segment))
      (user : readUsername segment = .ok username) (body : call.payload ScanRequest.codec = .ok request)
      (components : request.components ≠ []) : Submits call "clamav" username request.project
  | analysis {segment : List Char} {username : String} {request : SubmitRequest}
      (post : call.method = "POST") (route : Route.find? call.target = some (.analysis segment))
      (user : readUsername segment = .ok username)
      (body : call.payload SubmitRequest.codec = .ok request)
      (component : request.component ≠ "") (url : request.url ≠ "") :
      Submits call "klocwork" username request.project

def Route.takesSubmissions : Route → Bool
  | .scan _ | .analysis _ => true
  | .submissions | .probe _ => false

def Call.posts (call : Call) : Bool :=
  call.method = "POST" && (Route.find? call.target).any Route.takesSubmissions

theorem Call.method_of_posts {call : Call} (posts : call.posts = true) : call.method = "POST" := by
  simp only [Call.posts, Bool.and_eq_true, decide_eq_true_eq] at posts
  exact posts.1

theorem Call.Submits.posts {call : Call} {service username project : String}
    (submits : call.Submits service username project) : call.posts = true := by
  cases submits with
  | scan post route => simp [Call.posts, post, route, Route.takesSubmissions]
  | analysis post route => simp [Call.posts, post, route, Route.takesSubmissions]

theorem Refusal.status_ne (refusal : Refusal) : refusal.status ≠ 200 := by
  cases refusal with
  | payload fault => cases fault <;> decide
  | _ => decide

/-- What a service makes of a request: what is wrong with it, if anything is, and what is kept of it. -/
structure Desk (π : Type) where
  service : String
  codec : Codec π
  complaint? : π → Option String
  project : π → String

def scanDesk : Desk ScanRequest where
  service := "clamav"
  codec := ScanRequest.codec
  complaint? request := if request.components = [] then some "components must not be empty" else none
  project := ScanRequest.project

def analysisDesk : Desk SubmitRequest where
  service := "klocwork"
  codec := SubmitRequest.codec
  complaint? request :=
    if request.component = "" ∨ request.url = "" then some "component and url are required" else none
  project := SubmitRequest.project

namespace Desk

variable {π : Type} (desk : Desk π)

def judge (username : String) (request : π) : Demand :=
  match desk.complaint? request with
  | some complaint => .answer (.plain 400 complaint)
  | none => .record desk.service username (desk.project request)

/-- What a service decides about a call on its route. -/
def decision (segment : List Char) (call : Call) : Except Refusal Demand := do
  let username ← readUsername segment
  let request ← call.payload desk.codec
  .ok (desk.judge username request)

variable {desk} {segment : List Char} {call : Call}

theorem decision_read {username : String} {request : π} (user : readUsername segment = .ok username)
    (body : call.payload desk.codec = .ok request) :
    desk.decision segment call = .ok (desk.judge username request) := by
  simp only [decision, user, body, bind, Except.bind]

theorem decision_cases (segment : List Char) (call : Call) :
    (∃ refusal, desk.decision segment call = .error refusal) ∨
      ∃ username request, readUsername segment = .ok username ∧ call.payload desk.codec = .ok request ∧
        desk.decision segment call = .ok (desk.judge username request) := by
  cases user : readUsername segment with
  | error refusal => exact .inl ⟨refusal, by simp only [decision, user, bind, Except.bind]⟩
  | ok username =>
      cases body : call.payload desk.codec with
      | error refusal => exact .inl ⟨refusal, by simp only [decision, user, body, bind, Except.bind]⟩
      | ok request => exact .inr ⟨username, request, rfl, rfl, decision_read user body⟩

end Desk

theorem demandScan_eq (segment : List Char) (call : Call) :
    demandScan segment call = scanDesk.decision segment call := by
  unfold demandScan Desk.decision
  refine congrArg (readUsername segment).bind (funext fun username => ?_)
  refine congrArg (call.payload ScanRequest.codec).bind (funext fun request => ?_)
  simp only [Desk.judge, scanDesk, List.isEmpty_iff]
  split <;> rfl

theorem demandAnalysis_eq (segment : List Char) (call : Call) :
    demandAnalysis segment call = analysisDesk.decision segment call := by
  unfold demandAnalysis Desk.decision
  refine congrArg (readUsername segment).bind (funext fun username => ?_)
  refine congrArg (call.payload SubmitRequest.codec).bind (funext fun request => ?_)
  simp only [Desk.judge, analysisDesk]
  split <;> rfl

section Words

variable [Refusal.Wording]

/-- The demand of a call that comes of a decision: a refusal is an answer. -/
def Demand.ofDecision (call : Call) : Except Refusal Demand → Demand
  | .ok demand => demand
  | .error refusal => .answer (.refuse refusal (Refusal.Wording.words refusal call))

theorem demand_unroutable {call : Call} (route : Route.find? call.target = none) :
    demand call = .answer (.bare 404) := by
  simp only [demand, route]

theorem demand_wrongMethod {call : Call} {route : Route} {methods : List String}
    (found : Route.find? call.target = some route) (only : route.methods = some methods)
    (other : call.method ∉ methods) : demand call = .answer (wrongMethod methods) := by
  simp only [demand, found, only, Option.filter, List.contains_eq_mem, other, decide_false, Bool.not_false,
    if_true]

theorem demand_routed {call : Call} {route : Route} (found : Route.find? call.target = some route)
    (takes : ∀ methods ∈ route.methods, call.method ∈ methods) :
    demand call = .ofDecision call (route.demand call) := by
  have allowed : (route.methods.filter fun methods => !methods.contains call.method) = none := by
    simpa [Option.filter_eq_none_iff] using takes
  simp only [demand, found, allowed]
  cases route.demand call <;> rfl

theorem demand_scan {call : Call} {segment : List Char} (post : call.method = "POST")
    (route : Route.find? call.target = some (.scan segment)) :
    demand call = .ofDecision call (scanDesk.decision segment call) := by
  rw [demand_routed route (by simp [Route.methods, post]), Route.demand, demandScan_eq]

theorem demand_analysis {call : Call} {segment : List Char} (post : call.method = "POST")
    (route : Route.find? call.target = some (.analysis segment)) :
    demand call = .ofDecision call (analysisDesk.decision segment call) := by
  rw [demand_routed route (by simp [Route.methods, post]), Route.demand, demandAnalysis_eq]

theorem demand_listing {call : Call} (get : call.method = "GET")
    (route : Route.find? call.target = some .submissions) : demand call = .list := by
  rw [demand_routed route (by simp [Route.methods, get])]
  rfl

theorem demand_of_submits {call : Call} {service username project : String}
    (submits : call.Submits service username project) :
    demand call = .record service username project := by
  cases submits with
  | scan post route user body components =>
      have complaint : scanDesk.complaint? _ = none := if_neg components
      rw [demand_scan post route, Desk.decision_read user body, Desk.judge, complaint]
      rfl
  | analysis post route user body component url =>
      have complaint : analysisDesk.complaint? _ = none := if_neg (not_or.mpr ⟨component, url⟩)
      rw [demand_analysis post route, Desk.decision_read user body, Desk.judge, complaint]
      rfl

/-- Everything that a call can demand: a submission if it is accepted as one, the listing, or an answer,
which is not 200 if the call was a POST to a route of submissions. -/
inductive Demanded (call : Call) : Demand → Prop
  | record {service username project : String} (submits : call.Submits service username project) :
      Demanded call (.record service username project)
  | list (elsewhere : call.posts = false) : Demanded call .list
  | answer {given : Answer} (fails : call.posts = true → given.status ≠ 200) : Demanded call (.answer given)

theorem demanded_ofDecision {π : Type} (desk : Desk π) {call : Call} {segment : List Char}
    (submits : ∀ username request, readUsername segment = .ok username →
      call.payload desk.codec = .ok request → desk.complaint? request = none →
      call.Submits desk.service username (desk.project request)) :
    Demanded call (.ofDecision call (desk.decision segment call)) := by
  obtain ⟨refusal, refused⟩ | ⟨username, request, user, body, read⟩ := desk.decision_cases segment call
  · rw [refused]
    exact .answer fun _ => refusal.status_ne
  · rw [read, Demand.ofDecision, Desk.judge]
    cases complaint : desk.complaint? request with
    | some complaint =>
        have rejected : (400 : UInt16) ≠ 200 := by decide
        exact .answer fun _ => rejected
    | none => exact .record (submits username request user body complaint)

theorem demand_demanded (call : Call) : Demanded call (demand call) := by
  cases found : Route.find? call.target with
  | none =>
      rw [demand_unroutable found]
      exact .answer fun _ => by decide
  | some route =>
      have otherRoute (other : route.takesSubmissions = false) : call.posts = false := by
        simp [Call.posts, found, other]
      cases route with
      | scan segment =>
          by_cases post : call.method = "POST"
          · rw [demand_scan post found]
            refine demanded_ofDecision scanDesk fun username request user body complaint => ?_
            exact .scan post found user body fun none => by simp [scanDesk, none] at complaint
          · rw [demand_wrongMethod found rfl (by simpa using post)]
            exact .answer fun _ => by decide
      | analysis segment =>
          by_cases post : call.method = "POST"
          · rw [demand_analysis post found]
            refine demanded_ofDecision analysisDesk fun username request user body complaint => ?_
            have given : request.component ≠ "" ∧ request.url ≠ "" := by
              simpa [analysisDesk] using complaint
            exact .analysis post found user body given.1 given.2
          · rw [demand_wrongMethod found rfl (by simpa using post)]
            exact .answer fun _ => by decide
      | submissions =>
          by_cases reads : call.method ∈ ["GET", "HEAD"]
          · rw [demand_routed found (by simpa [Route.methods] using reads)]
            exact .list (otherRoute rfl)
          · rw [demand_wrongMethod found rfl reads]
            exact .answer fun _ => by decide
      | probe asked =>
          have elsewhere := otherRoute rfl
          rw [demand_routed found (by simp [Route.methods])]
          simp only [Route.demand]
          cases answerProbe call asked with
          | error refusal => exact .answer fun _ => refusal.status_ne
          | ok given => exact .answer fun posts => by rw [elsewhere] at posts; cases posts

end Words

end ScanCheck.Mock
