import ScanCheck.Config.Basic

namespace ScanCheck

/-- Where a case stands. It is sent once a response has arrived. -/
inductive CaseState
  | pending
  | sent
  | passed
  | failed
deriving DecidableEq, Repr

def CaseState.word : CaseState → String
  | .pending => "pending"
  | .sent => "sent"
  | .passed => "ok"
  | .failed => "FAILED"

structure CaseReport where
  index : Nat
  label : String
  state : CaseState
  status : Option UInt16
  error : Option String
deriving DecidableEq, Repr

structure SuiteReport where
  suite : String
  cases : List CaseReport
deriving DecidableEq, Repr

def expectedStatus : UInt16 := 200

def assertStatus (response : Response) (expected : UInt16) : Except HarnessError Unit :=
  if response.status = expected then .ok ()
  else .error (.assertionFailed expected response.status response.text)

namespace CaseReport

def unanswered (index : Nat) (label : String) (error : HarnessError) : CaseReport :=
  { index, label, state := .failed, status := none, error := some error.message }

def answered (index : Nat) (label : String) (response : Response) : CaseReport :=
  match assertStatus response expectedStatus with
  | .ok () => { index, label, state := .passed, status := some response.status, error := none }
  | .error error =>
    { index, label, state := .failed, status := some response.status, error := some error.message }

def padRight (width : Nat) (text : List Char) : List Char :=
  text ++ List.replicate (width - text.length) ' '

def padLeft (width : Nat) (text : List Char) : List Char :=
  List.replicate (width - text.length) ' ' ++ text

def statusText (report : CaseReport) : List Char :=
  match report.status with
  | some status => Decimal.digits status.toNat
  | none => ['-', '-', '-']

def shownError (report : CaseReport) : List Char :=
  match report.state, report.error with
  | .failed, some error => ' ' :: ' ' :: error.toList
  | _, _ => []

def line (suite : String) (report : CaseReport) : List Char :=
  suite.toList ++ [':', ':'] ++ padRight 3 (Decimal.digits report.index) ++ [' '] ++
    padRight 40 report.label.toList ++ [' '] ++ padLeft 3 report.statusText ++ [' '] ++
    report.state.word.toList ++ report.shownError

end CaseReport

namespace SuiteReport

def count (report : SuiteReport) (state : CaseState) : Nat :=
  (report.cases.filter (·.state = state)).length

def passed (report : SuiteReport) : Nat := report.count .passed

def failed (report : SuiteReport) : Nat := report.count .failed

def isSuccess (report : SuiteReport) : Bool := report.cases.all (·.state = .passed)

def summary (report : SuiteReport) : List Char :=
  report.suite.toList ++ [':', ' '] ++ Decimal.digits report.passed ++ " passed, ".toList ++
    Decimal.digits report.failed ++ " failed".toList

def lines (report : SuiteReport) : List (List Char) :=
  report.cases.map (CaseReport.line report.suite) ++ [report.summary]

/-- The text of a report. Every line ends in a line feed. -/
def render (report : SuiteReport) : String :=
  String.ofList (report.lines.flatMap fun line => line ++ ['\n'])

end SuiteReport

end ScanCheck
