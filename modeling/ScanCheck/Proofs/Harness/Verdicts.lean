import ScanCheck.Proofs.Harness.Turns

namespace ScanCheck

variable {π σ : Type}

namespace Turn

def response? : Turn π → Option Response
  | .refused _ _ | .lost _ _ _ => none
  | .answered _ _ response => some response

/-- Why no response arrived, in the words of the builder's or the transport's own error. -/
def failure? : Turn π → Option String
  | .refused _ error => some error.message
  | .lost _ _ error => some error.message
  | .answered _ _ _ => none

def Accepted (turn : Turn π) : Prop :=
  ∃ case request response, turn = .answered case request response ∧ response.status = 200

end Turn

/-- The entry of a report at an index agrees with the turn of the case there. -/
structure Settled (label : π → String) (index : Nat) (turn : Turn π) (entry : CaseReport) : Prop where
  index : entry.index = index
  label : entry.label = label turn.case
  /-- No case is left pending or sent. -/
  decided : entry.state = .passed ∨ entry.state = .failed
  passed : entry.state = .passed ↔ turn.Accepted
  ofPassed : entry.state = .passed → entry.status = some 200 ∧ entry.error = none
  ofFailed : entry.state = .failed → ∃ text, entry.error = some text
  /-- There is no status exactly if the builder or the transport failed. -/
  unanswered : entry.status = none ↔ ∃ text, turn.failure? = some text
  failure : ∀ text, turn.failure? = some text → entry.error = some text
  answered : ∀ status, entry.status = some status ↔
    ∃ response, turn.response? = some response ∧ response.status = status
  rejection : ∀ response, turn.response? = some response → response.status ≠ 200 →
    entry.error = some ("expected status 200, got " ++ Decimal.text response.status.toNat ++ ": " ++
      response.text)

theorem assertionFailed_message (actual : UInt16) (body : String) :
    (HarnessError.assertionFailed expectedStatus actual body).message =
      "expected status 200, got " ++ Decimal.text actual.toNat ++ ": " ++ body := by
  have wanted : "expected status " ++ Decimal.text expectedStatus.toNat ++ ", got " =
      "expected status 200, got " := by decide +kernel
  exact congrArg (· ++ Decimal.text actual.toNat ++ ": " ++ body) wanted

theorem answered_accepted {response : Response} (accepted : response.status = 200) (index : Nat)
    (label : String) :
    CaseReport.answered index label response =
      { index, label, state := .passed, status := some 200, error := none } := by
  have expected : response.status = expectedStatus := accepted
  rw [CaseReport.answered, assertStatus, if_pos expected, accepted]

theorem answered_rejected {response : Response} (rejected : response.status ≠ 200) (index : Nat)
    (label : String) :
    CaseReport.answered index label response =
      { index, label, state := .failed, status := some response.status,
        error := some ("expected status 200, got " ++ Decimal.text response.status.toNat ++ ": " ++
          response.text) } := by
  have unexpected : response.status ≠ expectedStatus := rejected
  rw [CaseReport.answered, assertStatus, if_neg unexpected]
  simp only [assertionFailed_message]

theorem unanswered_settled {label : π → String} {index : Nat} {turn : Turn π} {error : HarnessError}
    (failed : turn.failure? = some error.message) (silent : turn.response? = none) :
    Settled label index turn (.unanswered index (label turn.case) error) := by
  have refused : ¬ turn.Accepted := by
    rintro ⟨_, _, _, rfl, _⟩
    cases failed
  exact {
    index := rfl
    label := rfl
    decided := .inr rfl
    passed := by simp [CaseReport.unanswered, refused]
    ofPassed := by simp [CaseReport.unanswered]
    ofFailed := fun _ => ⟨_, rfl⟩
    unanswered := by simp [CaseReport.unanswered, failed]
    failure := fun _ given => failed.symm.trans given
    answered := by simp [CaseReport.unanswered, silent]
    rejection := fun _ arrived => by rw [silent] at arrived; cases arrived }

theorem accepted_answered (case : π) (request : Request) (response : Response) :
    (Turn.answered case request response).Accepted ↔ response.status = 200 := by
  constructor
  · rintro ⟨_, _, _, same, status⟩
    cases same
    exact status
  · intro status
    exact ⟨case, request, response, rfl, status⟩

theorem report_settled (label : π → String) (index : Nat) (turn : Turn π) :
    Settled label index turn (turn.report label index) := by
  cases turn with
  | refused case error => exact unanswered_settled rfl rfl
  | lost case request error => exact unanswered_settled rfl rfl
  | answered case request response =>
      have verdict := accepted_answered case request response
      by_cases accepted : response.status = 200
      · rw [Turn.report, answered_accepted accepted]
        constructor <;> simp [Turn.case, verdict, Turn.failure?, Turn.response?, accepted]
      · rw [Turn.report, answered_rejected accepted]
        exact {
          index := rfl
          label := rfl
          decided := .inr rfl
          passed := by simp [verdict, accepted]
          ofPassed := by simp
          ofFailed := fun _ => ⟨_, rfl⟩
          unanswered := by simp [Turn.failure?]
          failure := by simp [Turn.failure?]
          answered := by simp [Turn.response?]
          rejection := fun _ same _ => by cases same; rfl }

namespace SuiteReport

def Decided (report : SuiteReport) : Prop :=
  ∀ entry ∈ report.cases, entry.state = .passed ∨ entry.state = .failed

theorem passed_add_failed {report : SuiteReport} (decided : report.Decided) :
    report.passed + report.failed = report.cases.length := by
  obtain ⟨suite, cases⟩ := report
  unfold passed failed count
  induction cases with
  | nil => rfl
  | cons entry rest ih =>
      have others := ih fun other member => decided other (List.mem_cons_of_mem _ member)
      simp only at others
      rcases decided entry List.mem_cons_self with state | state <;>
        simp only [List.filter_cons, state, List.length_cons, decide_true, ite_true, reduceCtorEq,
          decide_false, Bool.false_eq_true, ite_false] <;>
        omega

theorem isSuccess_iff_failed_eq_zero {report : SuiteReport} (decided : report.Decided) :
    report.isSuccess ↔ report.failed = 0 := by
  unfold isSuccess failed count
  rw [List.all_eq_true, List.length_eq_zero_iff, List.filter_eq_nil_iff]
  constructor
  · intro passed entry member failed
    have state := of_decide_eq_true (passed entry member)
    simp [state] at failed
  · intro failed entry member
    rcases decided entry member with state | state
    · simp [state]
    · exact absurd (decide_eq_true state) (failed entry member)

end SuiteReport

def Harness.AllAccepted (harness : Harness σ) (build : Builder σ π) (cases : List π) (state : σ) : Prop :=
  ∀ turn ∈ (harness.turns build cases state).1, turn.Accepted

theorem runSuite_isSuccess_iff (harness : Harness σ) (suite : String) (label : π → String)
    (build : Builder σ π) (cases : List π) (state : σ) :
    (harness.runSuite suite label build cases state).result.isSuccess ↔
      harness.AllAccepted build cases state := by
  simp only [Harness.runSuite_eq_turns, SuiteReport.isSuccess, List.all_eq_true, decide_eq_true_eq]
  constructor
  · intro passed turn member
    obtain ⟨index, bound, rfl⟩ := List.mem_iff_getElem.mp member
    exact (report_settled label index _).passed.mp (passed _ (List.mem_mapIdx.mpr ⟨index, bound, rfl⟩))
  · intro accepted entry member
    obtain ⟨index, bound, rfl⟩ := List.mem_mapIdx.mp member
    exact (report_settled label index _).passed.mpr (accepted _ (List.getElem_mem bound))

/-- There is one entry for every case, in order, and it tells exactly what became of the case. So passed
and failed cases add up to all of them, and a run is a success if no case failed, which is to say if every
case was answered with status 200. -/
theorem runSuite_settled (harness : Harness σ) (suite : String) (label : π → String) (build : Builder σ π)
    (cases : List π) (state : σ) :
    let report := (harness.runSuite suite label build cases state).result
    let turns := (harness.turns build cases state).1
    report.suite = suite ∧ report.cases.length = cases.length ∧ turns.map Turn.case = cases ∧
      (∀ index turn entry, turns[index]? = some turn → report.cases[index]? = some entry →
        Settled label index turn entry) ∧
      report.passed + report.failed = cases.length ∧
      (report.isSuccess ↔ report.failed = 0) ∧
      (report.isSuccess ↔ ∀ turn ∈ turns, turn.Accepted) := by
  intro report turns
  have entries : report.cases = turns.mapIdx fun index turn => turn.report label index := by
    simp only [report, turns, Harness.runSuite_eq_turns]
  have length : report.cases.length = cases.length := by
    rw [entries, List.length_mapIdx, Harness.turns_length]
  have settled : ∀ index turn entry, turns[index]? = some turn → report.cases[index]? = some entry →
      Settled label index turn entry := by
    intro index turn entry taken reported
    rw [entries, List.getElem?_mapIdx, taken] at reported
    cases reported
    exact report_settled label index turn
  have decided : report.Decided := by
    intro entry member
    rw [entries] at member
    obtain ⟨index, turn, rfl⟩ := List.mem_mapIdx.mp member
    exact (report_settled label index _).decided
  refine ⟨by simp only [report, Harness.runSuite_eq_turns], length, harness.turns_cases build cases state,
    settled, length ▸ report.passed_add_failed decided, report.isSuccess_iff_failed_eq_zero decided, ?_⟩
  rw [SuiteReport.isSuccess, entries, List.all_eq_true]
  simp only [List.mem_mapIdx, decide_eq_true_eq]
  constructor
  · intro passed turn member
    obtain ⟨index, bound, rfl⟩ := List.mem_iff_getElem.mp member
    exact (report_settled label index _).passed.mp (passed _ ⟨index, bound, rfl⟩)
  · rintro accepted entry ⟨index, bound, rfl⟩
    exact (report_settled label index _).passed.mpr (accepted _ (List.getElem_mem bound))

end ScanCheck
