import ScanCheck.Proofs.Harness.Turns

namespace ScanCheck

variable {π σ : Type}

/-- The same entry behind `offset` others. -/
def CaseReport.shift (offset : Nat) (entry : CaseReport) : CaseReport :=
  { entry with index := entry.index + offset }

theorem CaseReport.answered_shift (offset index : Nat) (label : String) (response : Response) :
    answered (index + offset) label response = (answered index label response).shift offset := by
  unfold answered
  split <;> rfl

theorem Turn.report_shift (label : π → String) (offset index : Nat) (turn : Turn π) :
    turn.report label (index + offset) = (turn.report label index).shift offset := by
  cases turn with
  | refused case error => rfl
  | lost case request error => rfl
  | answered case request response => exact CaseReport.answered_shift offset index (label case) response

namespace SuiteReport

/-- The report of a suite that was run in two parts. -/
def append (front back : SuiteReport) : SuiteReport :=
  ⟨front.suite, front.cases ++ back.cases.map (CaseReport.shift front.cases.length)⟩

theorem count_append (front back : SuiteReport) (state : CaseState) :
    (front.append back).count state = front.count state + back.count state := by
  simp only [count, append, List.filter_append, List.length_append, List.filter_map, List.length_map]
  rfl

theorem isSuccess_append (front back : SuiteReport) :
    (front.append back).isSuccess = (front.isSuccess && back.isSuccess) := by
  simp only [isSuccess, append, List.all_append, List.all_map]
  rfl

end SuiteReport

theorem reports_append (label : π → String) (front back : List (Turn π)) :
    (front ++ back).mapIdx (fun index turn => turn.report label index) =
      (front.mapIdx fun index turn => turn.report label index) ++
        (back.mapIdx fun index turn => turn.report label index).map (CaseReport.shift front.length) := by
  rw [List.mapIdx_append, List.append_cancel_left_eq]
  refine List.ext_getElem? fun index => ?_
  simp only [List.getElem?_mapIdx, List.getElem?_map, Turn.report_shift, Option.map_map, Function.comp_def]

/-- Running two lists of cases at once is running one after the other, with whatever the first run leaves
of builder and transport. -/
theorem runSuite_append (harness : Harness σ) (suite : String) (label : π → String) (build : Builder σ π)
    (front back : List π) (state : σ) :
    let whole := harness.runSuite suite label build (front ++ back) state
    let first := harness.runSuite suite label build front state
    let second := harness.runSuite suite label build back first.state
    whole.state = second.state ∧
      whole.trace = first.trace ++ second.trace ∧
      whole.result.suite = suite ∧
      whole.result.cases =
        first.result.cases ++ second.result.cases.map (CaseReport.shift front.length) ∧
      whole.result.passed = first.result.passed + second.result.passed ∧
      whole.result.failed = first.result.failed + second.result.failed ∧
      whole.result.isSuccess = (first.result.isSuccess && second.result.isSuccess) := by
  intro whole first second
  have firstTurns : first = _ := harness.runSuite_eq_turns label build suite front state
  have secondTurns : second = _ := harness.runSuite_eq_turns label build suite back first.state
  have wholeTurns : whole = _ := harness.runSuite_eq_turns label build suite (front ++ back) state
  rw [Harness.turns_append] at wholeTurns
  have length : first.result.cases.length = front.length := by
    rw [firstTurns, List.length_mapIdx, Harness.turns_length]
  have joined : whole.result = first.result.append second.result := by
    rw [SuiteReport.append, length, wholeTurns, secondTurns, firstTurns]
    simp only [reports_append, Harness.turns_length]
  refine ⟨?_, ?_, ?_, ?_, ?_, ?_, ?_⟩
  · rw [wholeTurns, secondTurns, firstTurns]
  · rw [wholeTurns, secondTurns, firstTurns]
    exact List.flatMap_append
  · rw [wholeTurns]
  · rw [joined, SuiteReport.append, length]
  · rw [joined, SuiteReport.passed, SuiteReport.count_append]
    rfl
  · rw [joined, SuiteReport.failed, SuiteReport.count_append]
    rfl
  · rw [joined, SuiteReport.isSuccess_append]

end ScanCheck
