import Mathlib.Data.List.Perm.Basic
import Mathlib.Logic.Relation
import ScanCheck.Proofs.Mock.Log

/-!
# Handlers of several clients

Calls arrive in any number and at any time. The handler of a call comes to the log once, at a moment of its
own choice, and its answer may leave later still; only what it does to the log is a single step. Whatever
the order of these steps, the calls could have been answered one after another in the order in which their
handlers came to the log.
-/

namespace ScanCheck.Mock

/-- A handler at work on a call, with the name that it has drawn for a submission. -/
structure Handler where
  call : Call
  id : String

/-- The services between two steps of their handlers. What has arrived, what was done and what has left is
kept in order. -/
structure Services where
  arrived : List Call
  /-- The handlers that have not come to the log yet. -/
  waiting : List Handler
  /-- The calls whose handlers have come to the log, with their answers. -/
  acted : List (Call × Answer)
  /-- The answers that have not left yet, with their calls. -/
  leaving : List (Call × Answer)
  replied : List (Call × Answer)
  log : Log

namespace Services

def start : Services := ⟨[], [], [], [], [], []⟩

def arrive (services : Services) (handler : Handler) : Services :=
  { services with arrived := services.arrived ++ [handler.call], waiting := handler :: services.waiting }

def act [Refusal.Wording] (services : Services) (handler : Handler) (others : List Handler) : Services :=
  let (answer, log) := respond (fun _ => handler.id) services.log handler.call
  { services with
    waiting := others, acted := services.acted ++ [(handler.call, answer)],
    leaving := (handler.call, answer) :: services.leaving, log }

def reply (services : Services) (answered : Call × Answer) (others : List (Call × Answer)) : Services :=
  { services with leaving := others, replied := services.replied ++ [answered] }

end Services

/-- A step of the services. Any handler that waits can be next, and so can any answer. -/
inductive Step [Refusal.Wording] : Services → Services → Prop
  | arrive (services : Services) (handler : Handler) : Step services (services.arrive handler)
  | act (services : Services) {before after : List Handler} {handler : Handler}
      (waits : services.waiting = before ++ handler :: after) :
      Step services (services.act handler (before ++ after))
  | reply (services : Services) {before after : List (Call × Answer)} {answered : Call × Answer}
      (leaves : services.leaving = before ++ answered :: after) :
      Step services (services.reply answered (before ++ after))

abbrev Steps [Refusal.Wording] : Services → Services → Prop := Relation.ReflTransGen Step

/-- The answers of the services are those that the calls would have got one after another, in the order in
which their handlers came to the log, and no call and no answer is lost or made twice. -/
structure Services.Linear [Refusal.Wording] (services : Services) : Prop where
  calls : (services.waiting.map Handler.call ++ services.acted.map Prod.fst).Perm services.arrived
  answers : (services.leaving ++ services.replied).Perm services.acted
  run : ∃ ids, respondAll ids [] (services.acted.map Prod.fst) =
    (services.acted.map Prod.snd, services.log)

section Words

variable [Refusal.Wording]

theorem Services.Linear.start : Services.start.Linear where
  calls := .refl _
  answers := .refl _
  run := ⟨fun _ => "", rfl⟩

theorem Services.Linear.arrive {services : Services} (linear : services.Linear) (handler : Handler) :
    (services.arrive handler).Linear where
  calls := by
    have perm := linear.calls.cons handler.call
    exact perm.trans (List.perm_append_singleton handler.call services.arrived).symm
  answers := linear.answers
  run := linear.run

theorem Services.Linear.reply {services : Services} (linear : services.Linear)
    {before after : List (Call × Answer)} {answered : Call × Answer}
    (leaves : services.leaving = before ++ answered :: after) :
    (services.reply answered (before ++ after)).Linear where
  calls := linear.calls
  answers := by
    have perm := linear.answers
    rw [leaves] at perm
    refine .trans ?_ perm
    change ((before ++ after) ++ (services.replied ++ [answered])).Perm _
    rw [← List.append_assoc]
    refine (List.perm_append_singleton _ _).trans ?_
    rw [List.append_assoc, List.append_assoc]
    exact List.perm_middle.symm
  run := linear.run

/-- The next handler uses the name that it has drawn itself, and no earlier one gets to that name. -/
theorem run_act {services : Services} {ids : Nat → String}
    (run : respondAll ids [] (services.acted.map Prod.fst) = (services.acted.map Prod.snd, services.log))
    (handler : Handler) :
    ∃ others, respondAll others [] (services.acted.map Prod.fst ++ [handler.call]) =
      (services.acted.map Prod.snd ++ [(respond (fun _ => handler.id) services.log handler.call).1],
        (respond (fun _ => handler.id) services.log handler.call).2) := by
  let others : Nat → String := fun position =>
    if position = services.log.length then handler.id else ids position
  have earlier : respondAll others [] (services.acted.map Prod.fst) =
      (services.acted.map Prod.snd, services.log) := by
    refine Eq.trans (respondAll_congr ?_).symm run
    intro position inside
    rw [run] at inside
    exact (if_neg (Nat.ne_of_lt inside)).symm
  have last : respond others services.log handler.call =
      respond (fun _ => handler.id) services.log handler.call :=
    respond_congr fun _ => if_pos rfl
  refine ⟨others, ?_⟩
  rw [respondAll_append, earlier, respondAll_cons, last]
  rfl

theorem Services.Linear.act {services : Services} (linear : services.Linear) {before after : List Handler}
    {handler : Handler} (waits : services.waiting = before ++ handler :: after) :
    (services.act handler (before ++ after)).Linear where
  calls := by
    have perm := linear.calls
    rw [waits] at perm
    refine .trans ?_ perm
    simp only [Services.act, List.map_append, List.map_cons, List.map_nil, ← List.append_assoc]
    refine (List.perm_append_singleton _ _).trans ?_
    simp only [List.append_assoc, List.cons_append]
    exact List.perm_middle.symm
  answers :=
    (linear.answers.cons _).trans (List.perm_append_singleton _ services.acted).symm
  run := by
    obtain ⟨ids, run⟩ := linear.run
    obtain ⟨others, extended⟩ := run_act run handler
    refine ⟨others, ?_⟩
    simpa only [Services.act, List.map_append, List.map_cons, List.map_nil] using extended

theorem Services.Linear.step {before after : Services} (linear : before.Linear) (step : Step before after) :
    after.Linear := by
  cases step with
  | arrive handler => exact linear.arrive handler
  | act waits => exact linear.act waits
  | reply leaves => exact linear.reply leaves

theorem Services.Linear.steps {before after : Services} (linear : before.Linear)
    (steps : Steps before after) : after.Linear := by
  induction steps with
  | refl => exact linear
  | tail _ step ih => exact ih.step step

theorem Services.Linear.records {services : Services} (linear : services.Linear) :
    Records services.acted services.log := by
  obtain ⟨ids, run⟩ := linear.run
  obtain ⟨added, grown, records⟩ := respondAll_records ids [] (services.acted.map Prod.fst)
  rw [run] at grown records
  rw [List.nil_append] at grown
  subst grown
  have zipped : (services.acted.map Prod.fst).zip (services.acted.map Prod.snd) = services.acted := by
    rw [List.zip_map', List.map_id']
  rwa [zipped] at records

/-- Nothing is ever taken out of the log, and nothing is put in front of what it holds. -/
theorem prefix_of_step {before after : Services} (step : Step before after) :
    before.log <+: after.log ∧ before.acted <+: after.acted := by
  cases step with
  | arrive handler => exact ⟨List.prefix_rfl, List.prefix_rfl⟩
  | reply leaves => exact ⟨List.prefix_rfl, List.prefix_rfl⟩
  | @act front back handler waits =>
      obtain ⟨added, grown, _⟩ := respond_records (fun _ => handler.id) before.log handler.call
      exact ⟨⟨added, grown.symm⟩, List.prefix_append _ _⟩

theorem prefix_of_steps {before after : Services} (steps : Steps before after) :
    before.log <+: after.log ∧ before.acted <+: after.acted := by
  induction steps with
  | refl => exact ⟨List.prefix_rfl, List.prefix_rfl⟩
  | tail _ step ih =>
      have last := prefix_of_step step
      exact ⟨ih.1.trans last.1, ih.2.trans last.2⟩

/-- The log only grows, by one submission for each POST to a route of submissions that is answered 200:
call by call, over every sequence of calls, and over every interleaving of handlers. The calls that are
answered so are those that can be read and have what their service asks for. -/
theorem submissions_recorded_once :
    (∀ (ids : Nat → String) (log : Log) (call : Call),
      (accepted call (respond ids log call).1 = true ↔
        ∃ service username project, call.Submits service username project) ∧
      (accepted call (respond ids log call).1 = true → ∃ submission,
        Recorded call (respond ids log call).1 submission ∧
          (respond ids log call).2 = log ++ [submission]) ∧
      (accepted call (respond ids log call).1 = false → (respond ids log call).2 = log) ∧
      (∀ route, Route.find? call.target = some route → route.takesSubmissions = false →
        (respond ids log call).2 = log) ∧
      (call.method = "GET" → Route.find? call.target = some .submissions →
        (respond ids log call).1.status = 200 ∧
          Submission.codec.list.decode (utf8 (respond ids log call).1.body) = .ok log)) ∧
    (∀ (ids : Nat → String) (calls : List Call),
      (respondAll ids [] calls).1.length = calls.length ∧
      Records (calls.zip (respondAll ids [] calls).1) (respondAll ids [] calls).2 ∧
      ∀ before call after, calls = before ++ call :: after →
        (respondAll ids [] before).2 <+: (respondAll ids [] calls).2 ∧
          (respondAll ids [] calls).1[before.length]? =
            some (respond ids (respondAll ids [] before).2 call).1) ∧
    (∀ services : Services, Steps .start services →
      services.Linear ∧ Records services.acted services.log ∧
        ∀ later, Steps services later → services.log <+: later.log ∧ services.acted <+: later.acted) := by
  refine ⟨?_, ?_, ?_⟩
  · intro ids log call
    exact ⟨accepted_iff ids log call, respond_of_accepted, respond_of_not_accepted,
      fun route found other => respond_elsewhere found other ids log,
      fun get route => (respond_listing get route ids log).2⟩
  · intro ids calls
    obtain ⟨added, grown, records⟩ := respondAll_records ids [] calls
    rw [List.nil_append] at grown
    refine ⟨respondAll_length ids [] calls, grown ▸ records, ?_⟩
    intro before call after split
    subst split
    exact respondAll_middle ids [] before call after
  · intro services reached
    have linear := Services.Linear.start.steps reached
    exact ⟨linear, linear.records, fun later steps => prefix_of_steps steps⟩

end Words

/-- The handler of the later one of two calls can be the first to come to the log. -/
theorem later_call_recorded_first :
    let _ : Refusal.Wording := { words := fun _ _ => "" }
    let call (target : String) : Call :=
      { method := "POST", target, headers := [("content-type", "application/json")],
        body := utf8 (ScanPayload.codec.text ⟨"p", [⟨"tdvf", "code", "master", "https://example/repo"⟩]⟩) }
    ∃ services, Steps .start services ∧
      services.arrived = [call "/rest/clamav/scan/alice/", call "/rest/clamav/scan/bob/"] ∧
      services.log = [⟨"1", "clamav", "bob", "p"⟩, ⟨"2", "clamav", "alice", "p"⟩] ∧
      Records services.acted services.log := by
  intro words call
  let alice : Handler := ⟨call "/rest/clamav/scan/alice/", "2"⟩
  let bob : Handler := ⟨call "/rest/clamav/scan/bob/", "1"⟩
  have arrived : Steps .start ((Services.start.arrive alice).arrive bob) :=
    .tail (.single (.arrive _ alice)) (.arrive _ bob)
  have first : Steps .start (((Services.start.arrive alice).arrive bob).act bob [alice]) :=
    arrived.tail (.act _ (show _ = [] ++ bob :: [alice] from rfl))
  have second : Steps .start ((((Services.start.arrive alice).arrive bob).act bob [alice]).act alice []) :=
    first.tail (.act _ (show _ = [] ++ alice :: [] from rfl))
  exact ⟨_, second, rfl, by decide +kernel, (submissions_recorded_once.2.2 _ second).2.1⟩

end ScanCheck.Mock
