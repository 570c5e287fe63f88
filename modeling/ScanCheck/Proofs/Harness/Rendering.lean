import Mathlib.Data.List.Forall2
import ScanCheck.Harness.Report
import ScanCheck.Proofs.Decimal.Numerals
import ScanCheck.Proofs.Http.Target

namespace ScanCheck

/-- How many line feeds a text has. -/
def lineFeeds (text : String) : Nat := text.toList.count '\n'

theorem lineFeeds_eq_zero_iff {text : String} : lineFeeds text = 0 ↔ '\n' ∉ text.toList := List.count_eq_zero

/-- A text in which every line has its end is cut into its lines, and nothing stands behind the last of them. -/
theorem Text.fields_terminated {mark : Char} {lines : List (List Char)} (clean : ∀ line ∈ lines, mark ∉ line) :
    Text.fields mark (lines.flatMap fun line => line ++ [mark]) = lines ++ [[]] := by
  induction lines with
  | nil => rfl
  | cons line lines ih =>
      obtain ⟨own, others⟩ := List.forall_mem_cons.mp clean
      have cut := Text.fields_prepend own (Text.fields_mark (lines.flatMap fun line => line ++ [mark]))
      rw [List.flatMap_cons, List.append_assoc, List.singleton_append, cut, ih others, List.append_nil,
        List.cons_append]

/-- A text with blanks behind it up to a width. A text that is wider stands alone. -/
def FilledBehind (width : Nat) (text column : List Char) : Prop :=
  ∃ blanks, column = text ++ List.replicate blanks ' ' ∧ column.length = max width text.length

/-- A text with blanks in front of it up to a width. -/
def FilledInFront (width : Nat) (text column : List Char) : Prop :=
  ∃ blanks, column = List.replicate blanks ' ' ++ text ∧ column.length = max width text.length

theorem FilledBehind.length_eq {width : Nat} {text column : List Char} (filled : FilledBehind width text column)
    (fits : text.length ≤ width) : column.length = width := by
  obtain ⟨blanks, -, length⟩ := filled
  rw [length, Nat.max_eq_left fits]

theorem length_digits_le {number : Nat} (small : number < 1000) : (Decimal.digits number).length ≤ 3 :=
  Nat.toDigits_length 10 number 3 (by decide) small

namespace CaseReport

theorem filledBehind_padRight (width : Nat) (text : List Char) : FilledBehind width text (padRight width text) := by
  refine ⟨width - text.length, rfl, ?_⟩
  rw [padRight, List.length_append, List.length_replicate]
  omega

theorem filledInFront_padLeft (width : Nat) (text : List Char) : FilledInFront width text (padLeft width text) := by
  refine ⟨width - text.length, rfl, ?_⟩
  rw [padLeft, List.length_append, List.length_replicate]
  omega

/-- The error that the line of a case shows. -/
def visibleError? (report : CaseReport) : Option String := if report.state = .failed then report.error else none

theorem shownError_eq (report : CaseReport) :
    report.shownError = report.visibleError?.elim [] fun error => ' ' :: ' ' :: error.toList := by
  unfold shownError visibleError?
  split
  · rename_i failed found
    rw [failed, found]
    rfl
  · rename_i other
    split
    · rename_i failed
      cases found : report.error with
      | none => rfl
      | some error => exact absurd found (other error failed)
    · rfl

/-- The columns of a line whose width depends on the case. -/
structure Columns where
  index : List Char
  label : List Char
  status : List Char

/-- What stands in a line in front of the status. -/
def Columns.front (columns : Columns) (suite : String) : List Char :=
  suite.toList ++ [':', ':'] ++ columns.index ++ [' '] ++ columns.label ++ [' ']

theorem Columns.length_front (columns : Columns) (suite : String) :
    (columns.front suite).length = suite.length + columns.index.length + columns.label.length + 4 := by
  simp only [front, List.length_append, List.length_cons, List.length_nil, String.length_toList]
  omega

/-- The line of a case, and its columns. The status stands in the same place in all lines whose columns in front of it
are no wider than they should be. -/
structure LaidOut (suite : String) (report : CaseReport) (line : List Char) (columns : Columns) : Prop where
  index : FilledBehind 3 (Decimal.digits report.index) columns.index
  label : FilledBehind 40 report.label.toList columns.label
  status : FilledInFront 3 (report.status.elim ['-', '-', '-'] fun status => Decimal.digits status.toNat)
    columns.status
  line : line = columns.front suite ++ columns.status ++ [' '] ++ report.state.word.toList ++
    report.visibleError?.elim [] fun error => ' ' :: ' ' :: error.toList
  aligned : report.index < 1000 → report.label.length ≤ 40 → (columns.front suite).length = suite.length + 47

theorem laidOut_line (suite : String) (report : CaseReport) :
    ∃ columns, LaidOut suite report (line suite report) columns := by
  let columns : Columns :=
    { index := padRight 3 (Decimal.digits report.index)
      label := padRight 40 report.label.toList
      status := padLeft 3 report.statusText }
  have index : FilledBehind 3 (Decimal.digits report.index) columns.index := filledBehind_padRight 3 _
  have label : FilledBehind 40 report.label.toList columns.label := filledBehind_padRight 40 _
  have status : report.statusText = report.status.elim ['-', '-', '-'] fun status => Decimal.digits status.toNat := by
    unfold statusText
    cases report.status <;> rfl
  refine ⟨columns, index, label, status ▸ filledInFront_padLeft 3 report.statusText, ?line, ?aligned⟩
  case line =>
    rw [← shownError_eq]
    rfl
  case aligned =>
    intro small short
    rw [columns.length_front, index.length_eq (length_digits_le small),
      label.length_eq (by rwa [String.length_toList])]

theorem notMem_digits (number : Nat) : '\n' ∉ Decimal.digits number := by
  intro member
  have digit := Decimal.isDigit_digits number '\n' member
  cases digit

theorem count_padRight (width : Nat) (text : List Char) : (padRight width text).count '\n' = text.count '\n' := by
  rw [padRight, List.count_append, List.count_replicate]
  simp

theorem count_padLeft (width : Nat) (text : List Char) : (padLeft width text).count '\n' = text.count '\n' := by
  rw [padLeft, List.count_append, List.count_replicate]
  simp

theorem count_statusText (report : CaseReport) : report.statusText.count '\n' = 0 := by
  apply List.count_eq_zero.mpr
  unfold statusText
  split
  · exact notMem_digits _
  · decide

theorem count_shownError (report : CaseReport) :
    report.shownError.count '\n' = report.visibleError?.elim 0 lineFeeds := by
  rw [shownError_eq]
  cases report.visibleError? with
  | none => rfl
  | some error => simp [lineFeeds]

theorem count_line (suite : String) (report : CaseReport) : (line suite report).count '\n' =
    lineFeeds suite + lineFeeds report.label + report.visibleError?.elim 0 lineFeeds := by
  have word : report.state.word.toList.count '\n' = 0 := by
    cases report.state <;> decide +kernel
  simp only [line, List.count_append, count_padRight, count_padLeft, List.count_eq_zero.mpr (notMem_digits _),
    count_statusText, count_shownError, word]
  simp [lineFeeds]

end CaseReport

namespace SuiteReport

theorem toList_render (report : SuiteReport) :
    report.render.toList = report.lines.flatMap fun line => line ++ ['\n'] := String.toList_ofList

theorem count_summary (report : SuiteReport) : report.summary.count '\n' = lineFeeds report.suite := by
  have passed : " passed, ".toList.count '\n' = 0 := by decide +kernel
  have failed : " failed".toList.count '\n' = 0 := by decide +kernel
  simp only [summary, List.count_append, List.count_eq_zero.mpr (CaseReport.notMem_digits _), passed, failed]
  simp [lineFeeds]

theorem sum_visible (cases : List CaseReport) :
    (cases.map fun report => report.visibleError?.elim 0 lineFeeds).sum =
      ((cases.filterMap CaseReport.visibleError?).map lineFeeds).sum := by
  induction cases with
  | nil => rfl
  | cons report cases ih =>
      rw [List.map_cons, List.sum_cons, ih]
      cases visible : report.visibleError? with
      | none => rw [List.filterMap_cons_none visible, Option.elim_none, Nat.zero_add]
      | some error => rw [List.filterMap_cons_some visible, List.map_cons, List.sum_cons, Option.elim_some]

theorem count_caseLines (suite : String) (cases : List CaseReport) :
    ((cases.map (CaseReport.line suite)).flatMap fun line => line ++ ['\n']).count '\n' =
      cases.length * (1 + lineFeeds suite) + (cases.map fun report => lineFeeds report.label).sum +
        (cases.map fun report => report.visibleError?.elim 0 lineFeeds).sum := by
  induction cases with
  | nil => simp
  | cons report cases ih =>
      simp only [List.map_cons, List.flatMap_cons, List.count_append, ih, CaseReport.count_line, List.sum_cons,
        List.length_cons, Nat.succ_mul, List.count_singleton_self]
      omega

theorem count_render (report : SuiteReport) : report.render.toList.count '\n' =
    (report.cases.length + 1) * (1 + lineFeeds report.suite) +
      (report.cases.map fun case => lineFeeds case.label).sum +
      ((report.cases.filterMap CaseReport.visibleError?).map lineFeeds).sum := by
  rw [toList_render, lines, List.flatMap_append, List.count_append, count_caseLines, sum_visible]
  simp only [List.flatMap_cons, List.flatMap_nil, List.append_nil, List.count_append, count_summary,
    List.count_singleton_self, Nat.succ_mul]
  omega

/-- No line feed in the name of the suite, in a label or in an error that is shown. -/
structure Unbroken (report : SuiteReport) : Prop where
  suite : '\n' ∉ report.suite.toList
  labels : ∀ case ∈ report.cases, '\n' ∉ case.label.toList
  errors : ∀ case ∈ report.cases, ∀ error, case.visibleError? = some error → '\n' ∉ error.toList

theorem unbroken_iff (report : SuiteReport) : report.Unbroken ↔ lineFeeds report.suite = 0 ∧
    (report.cases.map fun case => lineFeeds case.label).sum = 0 ∧
      ((report.cases.filterMap CaseReport.visibleError?).map lineFeeds).sum = 0 := by
  simp only [List.sum_eq_zero_iff_forall_eq_nat, List.forall_mem_map, List.mem_filterMap, lineFeeds_eq_zero_iff]
  constructor
  · intro unbroken
    refine ⟨unbroken.suite, unbroken.labels, fun error shown => ?_⟩
    obtain ⟨case, member, visible⟩ := shown
    exact unbroken.errors case member error visible
  · intro clean
    obtain ⟨suite, labels, errors⟩ := clean
    exact ⟨suite, labels, fun case member error visible => errors error ⟨case, member, visible⟩⟩

theorem count_render_eq_iff (report : SuiteReport) :
    report.render.toList.count '\n' = report.cases.length + 1 ↔ report.Unbroken := by
  rw [count_render, unbroken_iff, Nat.mul_add, Nat.mul_one]
  constructor
  · intro single
    have suite : (report.cases.length + 1) * lineFeeds report.suite = 0 := by omega
    exact ⟨(Nat.mul_eq_zero.mp suite).resolve_left (Nat.succ_ne_zero _), by omega, by omega⟩
  · intro clean
    obtain ⟨suite, labels, errors⟩ := clean
    rw [suite, labels, errors, Nat.mul_zero]

theorem Unbroken.notMem_line {report : SuiteReport} (unbroken : report.Unbroken) :
    ∀ line ∈ report.lines, '\n' ∉ line := by
  have suite := lineFeeds_eq_zero_iff.mpr unbroken.suite
  intro line member
  apply List.count_eq_zero.mp
  rcases List.mem_append.mp member with own | last
  · obtain ⟨case, inside, rfl⟩ := List.mem_map.mp own
    rw [CaseReport.count_line, suite, lineFeeds_eq_zero_iff.mpr (unbroken.labels case inside)]
    cases visible : case.visibleError? with
    | none => rfl
    | some error => rw [Option.elim_some, lineFeeds_eq_zero_iff.mpr (unbroken.errors case inside error visible)]
  · rw [List.mem_singleton.mp last, count_summary, suite]

/-- How the text of a report is made of lines. -/
structure Rendered (report : SuiteReport) (text : List Char) : Prop where
  ends : ∃ front, text = front ++ ['\n']
  feeds : text.count '\n' = (report.cases.length + 1) * (1 + lineFeeds report.suite) +
    (report.cases.map fun case => lineFeeds case.label).sum +
    ((report.cases.filterMap CaseReport.visibleError?).map lineFeeds).sum
  oneEach_iff : text.count '\n' = report.cases.length + 1 ↔ report.Unbroken
  /-- Behind the line feed at the end there is nothing, so the field there is empty. -/
  lines : report.Unbroken → ∃ lines summary, Text.fields '\n' text = lines ++ [summary, []] ∧
    List.Forall₂ (fun case line => ∃ columns, CaseReport.LaidOut report.suite case line columns)
      report.cases lines ∧
    summary = report.suite.toList ++ ": ".toList ++
      Decimal.digits (report.cases.countP fun case => case.state = .passed) ++ " passed, ".toList ++
      Decimal.digits (report.cases.countP fun case => case.state = .failed) ++ " failed".toList

/-- The text of a report ends in a line feed. It has one for every line, and more only from the name of the suite, the
labels and the errors that are shown. Where these have none, there is a line for every case, in their order, with all
of its label and with its error if it failed, and the last line counts the cases that passed and those that failed. -/
theorem report_rendered (report : SuiteReport) : Rendered report report.render.toList where
  ends := by
    let front := (report.cases.map (CaseReport.line report.suite)).flatMap fun line => line ++ ['\n']
    refine ⟨front ++ report.summary, ?_⟩
    rw [toList_render, lines, List.flatMap_append, List.append_assoc, List.flatMap_singleton]
  feeds := report.count_render
  oneEach_iff := report.count_render_eq_iff
  lines := by
    intro unbroken
    refine ⟨report.cases.map (CaseReport.line report.suite), report.summary, ?cut, ?each, ?summary⟩
    case cut =>
      rw [toList_render, Text.fields_terminated unbroken.notMem_line, lines, List.append_assoc]
      rfl
    case each =>
      apply List.forall₂_map_right_iff.mpr
      apply List.forall₂_same.mpr
      exact fun case _ => CaseReport.laidOut_line report.suite case
    case summary =>
      simp only [summary, passed, failed, count, List.countP_eq_length_filter]
      rfl

end SuiteReport

end ScanCheck
