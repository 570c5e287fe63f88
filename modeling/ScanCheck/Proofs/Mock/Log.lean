import Mathlib.Data.List.Forall2
import ScanCheck.Proofs.Codec.Payloads
import ScanCheck.Proofs.Mock.Decisions

namespace ScanCheck.Mock

/-- Whether a call was a POST to a route of submissions and got the answer 200. -/
def accepted (call : Call) (answer : Answer) : Bool := call.posts && answer.status = 200

/-- A submission stands for a call: it says what the call asked for, and it was given back as the answer. -/
structure Recorded (call : Call) (answer : Answer) (submission : Submission) : Prop where
  submits : call.Submits submission.service submission.username submission.project
  returned : Submission.codec.decode (utf8 answer.body) = .ok submission

theorem seenBy_status (method : String) (answer : Answer) : (answer.seenBy method).status = answer.status := by
  unfold Answer.seenBy
  split <;> rfl

theorem seenBy_whole {method : String} (head : method ≠ "HEAD") (connect : method ≠ "CONNECT")
    (answer : Answer) : answer.seenBy method = answer :=
  if_neg (not_or.mpr ⟨head, fun both => connect both.1⟩)

theorem seenBy_post (answer : Answer) : answer.seenBy "POST" = answer :=
  seenBy_whole (by decide) (by decide) answer

/-- The accepted calls among some that were answered, one after another, and what was recorded for them. -/
def Records (replies : List (Call × Answer)) (added : Log) : Prop :=
  List.Forall₂ (fun reply submission => Recorded reply.1 reply.2 submission)
    (replies.filter fun reply => accepted reply.1 reply.2) added

theorem Records.append {first second : List (Call × Answer)} {before after : Log}
    (early : Records first before) (late : Records second after) :
    Records (first ++ second) (before ++ after) := by
  unfold Records
  rw [List.filter_append]
  exact List.rel_append early late

variable [Refusal.Wording]

theorem accepted_of_submits {call : Call} {service username project : String}
    (submits : call.Submits service username project) (ids : Nat → String) (log : Log) :
    accepted call (respond ids log call).1 = true := by
  simp only [accepted, submits.posts, Bool.true_and, respond, demand_of_submits submits, Demand.perform,
    seenBy_status]
  rfl

theorem recorded_of_submits {call : Call} {service username project : String}
    (submits : call.Submits service username project) (ids : Nat → String) (log : Log) :
    Recorded call (respond ids log call).1 { id := ids log.length, service, username, project } where
  submits := submits
  returned := by
    have post := Call.method_of_posts submits.posts
    simp only [respond, demand_of_submits submits, Demand.perform, post, seenBy_post]
    exact Submission.codec_faithful.decode_text _

/-- A call either is accepted and adds its own submission at the end of the log, or it leaves the log as
it was. -/
theorem respond_log (ids : Nat → String) (log : Log) (call : Call) :
    (accepted call (respond ids log call).1 = true ∧
      ∃ submission, Recorded call (respond ids log call).1 submission ∧
        submission.id = ids log.length ∧ (respond ids log call).2 = log ++ [submission]) ∨
    (accepted call (respond ids log call).1 = false ∧ (respond ids log call).2 = log) := by
  have demanded := demand_demanded call
  cases meant : demand call with
  | record service username project =>
      rw [meant] at demanded
      cases demanded with
      | record submits =>
          refine .inl ⟨accepted_of_submits submits ids log, _, recorded_of_submits submits ids log, rfl, ?_⟩
          simp only [respond, meant, Demand.perform]
  | list =>
      rw [meant] at demanded
      cases demanded with
      | list elsewhere =>
          refine .inr ⟨by simp [accepted, elsewhere], ?_⟩
          simp only [respond, meant, Demand.perform]
  | answer given =>
      rw [meant] at demanded
      cases demanded with
      | answer fails =>
          refine .inr ⟨?_, by simp only [respond, meant, Demand.perform]⟩
          simp only [accepted, respond, meant, Demand.perform, seenBy_status, Bool.and_eq_false_iff,
            decide_eq_false_iff_not]
          cases posts : call.posts with
          | false => exact .inl rfl
          | true => exact .inr (fails posts)

theorem respond_of_accepted {ids : Nat → String} {log : Log} {call : Call}
    (yes : accepted call (respond ids log call).1 = true) :
    ∃ submission, Recorded call (respond ids log call).1 submission ∧
      (respond ids log call).2 = log ++ [submission] := by
  rcases respond_log ids log call with ⟨_, submission, recorded, _, extended⟩ | ⟨no, _⟩
  · exact ⟨submission, recorded, extended⟩
  · rw [yes] at no
    cases no

theorem respond_of_not_accepted {ids : Nat → String} {log : Log} {call : Call}
    (no : accepted call (respond ids log call).1 = false) : (respond ids log call).2 = log := by
  rcases respond_log ids log call with ⟨yes, _⟩ | ⟨_, same⟩
  · rw [no] at yes
    cases yes
  · exact same

/-- Which calls are accepted can be told from the calls alone. -/
theorem accepted_iff (ids : Nat → String) (log : Log) (call : Call) : accepted call (respond ids log call).1 = true ↔
    ∃ service username project, call.Submits service username project := by
  constructor
  · intro yes
    obtain ⟨submission, recorded, -⟩ := respond_of_accepted yes
    exact ⟨_, _, _, recorded.submits⟩
  · rintro ⟨service, username, project, submits⟩
    exact accepted_of_submits submits ids log

/-- Of all the names only the next one matters, and only if the log grows. -/
theorem respond_congr {ids others : Nat → String} {log : Log} {call : Call}
    (agree : log.length < (respond ids log call).2.length → ids log.length = others log.length) :
    respond ids log call = respond others log call := by
  cases meant : demand call with
  | record service username project =>
      have grown : log.length < (respond ids log call).2.length := by
        simp only [respond, meant, Demand.perform, List.length_append, List.length_singleton]
        omega
      simp only [respond, meant, Demand.perform, agree grown]
  | list => simp only [respond, meant, Demand.perform]
  | answer given => simp only [respond, meant, Demand.perform]

theorem respond_listing {call : Call} (get : call.method = "GET")
    (route : Route.find? call.target = some .submissions) (ids : Nat → String) (log : Log) :
    (respond ids log call).2 = log ∧ (respond ids log call).1.status = 200 ∧
      Submission.codec.list.decode (utf8 (respond ids log call).1.body) = .ok log := by
  have shown := seenBy_whole (show "GET" ≠ "HEAD" by decide) (show "GET" ≠ "CONNECT" by decide)
  simp only [respond, demand_listing get route, Demand.perform, get, shown]
  exact ⟨trivial, rfl, (Codec.list_faithful Submission.codec_faithful).decode_text log⟩

theorem respond_elsewhere {call : Call} {route : Route} (found : Route.find? call.target = some route)
    (other : route.takesSubmissions = false) (ids : Nat → String) (log : Log) :
    (respond ids log call).2 = log := by
  have unposted : call.posts = false := by simp [Call.posts, found, other]
  exact respond_of_not_accepted (by rw [accepted, unposted, Bool.false_and])

theorem respond_records (ids : Nat → String) (log : Log) (call : Call) :
    ∃ added, (respond ids log call).2 = log ++ added ∧ Records [(call, (respond ids log call).1)] added := by
  rcases respond_log ids log call with ⟨yes, submission, recorded, _, extended⟩ | ⟨no, same⟩
  · refine ⟨[submission], extended, ?_⟩
    rw [Records, List.filter_cons_of_pos (by exact yes)]
    exact .cons recorded .nil
  · refine ⟨[], by rw [same, List.append_nil], ?_⟩
    rw [Records, List.filter_cons_of_neg (by rw [no]; exact Bool.false_ne_true)]
    exact .nil

theorem respondAll_cons (ids : Nat → String) (log : Log) (call : Call) (calls : List Call) :
    respondAll ids log (call :: calls) =
      ((respond ids log call).1 :: (respondAll ids (respond ids log call).2 calls).1,
        (respondAll ids (respond ids log call).2 calls).2) :=
  rfl

theorem respondAll_append (ids : Nat → String) (log : Log) (first second : List Call) :
    respondAll ids log (first ++ second) =
      ((respondAll ids log first).1 ++ (respondAll ids (respondAll ids log first).2 second).1,
        (respondAll ids (respondAll ids log first).2 second).2) := by
  induction first generalizing log with
  | nil => rfl
  | cons call first ih => simp only [List.cons_append, respondAll, ih]

theorem respondAll_length (ids : Nat → String) (log : Log) (calls : List Call) :
    (respondAll ids log calls).1.length = calls.length := by
  induction calls generalizing log with
  | nil => rfl
  | cons call calls ih => simp only [respondAll, List.length_cons, ih]

theorem respondAll_records (ids : Nat → String) (log : Log) (calls : List Call) :
    ∃ added, (respondAll ids log calls).2 = log ++ added ∧
      Records (calls.zip (respondAll ids log calls).1) added := by
  induction calls generalizing log with
  | nil => exact ⟨[], (List.append_nil log).symm, .nil⟩
  | cons call calls ih =>
      obtain ⟨first, grown, recorded⟩ := respond_records ids log call
      obtain ⟨others, finished, records⟩ := ih (respond ids log call).2
      refine ⟨first ++ others, ?_, ?_⟩
      · rw [respondAll_cons, finished, grown, List.append_assoc]
      · exact recorded.append records

theorem prefix_respondAll (ids : Nat → String) (log : Log) (calls : List Call) :
    log <+: (respondAll ids log calls).2 := by
  obtain ⟨added, grown, _⟩ := respondAll_records ids log calls
  exact ⟨added, grown.symm⟩

/-- A call in the middle of a run is answered from the log that those before it have left. -/
theorem respondAll_middle (ids : Nat → String) (log : Log) (before : List Call) (call : Call)
    (after : List Call) :
    (respondAll ids log before).2 <+: (respondAll ids log (before ++ call :: after)).2 ∧
      (respondAll ids log (before ++ call :: after)).1[before.length]? =
        some (respond ids (respondAll ids log before).2 call).1 := by
  rw [respondAll_append]
  refine ⟨prefix_respondAll ids _ _, ?_⟩
  rw [← respondAll_length ids log before, List.getElem?_append_right (Nat.le_refl _), Nat.sub_self]
  rfl

/-- Names that the log never gets to do not matter. -/
theorem respondAll_congr {ids others : Nat → String} {log : Log} {calls : List Call}
    (agree : ∀ position < (respondAll ids log calls).2.length, ids position = others position) :
    respondAll ids log calls = respondAll others log calls := by
  induction calls generalizing log with
  | nil => rfl
  | cons call calls ih =>
      obtain ⟨added, finished, _⟩ := respondAll_records ids (respond ids log call).2 calls
      rw [respondAll_cons] at agree
      have first : respond ids log call = respond others log call := by
        refine respond_congr fun grows => agree log.length ?_
        rw [finished, List.length_append]
        omega
      rw [respondAll_cons, ih agree, respondAll_cons, ← first]

end ScanCheck.Mock
