import ScanCheck.Config.Overrides
import ScanCheck.Config.Validation
import ScanCheck.Harness.Suite

namespace ScanCheck

/-- One of the two services, where a run is limited to it. -/
inductive Selection
  | scan
  | analysis
deriving DecidableEq, Repr

namespace Runner

structure Inputs where
  config : Except ConfigError HarnessConfig
  lookup : Lookup
  suite : Except ConfigError SuiteFile

namespace Inputs

/-- Inputs given as TOML texts. Without a text of its own the configuration is the default one. -/
def ofTexts [Codec.Wording] (config : Option String) (lookup : Lookup) (suite : String) : Inputs where
  config := match config with
    | none => .ok .default
    | some source => HarnessConfig.codec.fromToml source
  lookup := lookup
  suite := SuiteFile.codec.fromToml suite

def ofFiles [Codec.Wording] (readFile : ReadFile) (config : Option String) (lookup : Lookup)
    (suite : String) : Inputs where
  config := match config with
    | none => .ok .default
    | some path => HarnessConfig.codec.load readFile path
  lookup := lookup
  suite := SuiteFile.codec.load readFile suite

end Inputs

structure Options where
  only : Option Selection := none
  delay : Option Duration := none
  validated : Bool := true
deriving DecidableEq, Repr

/-- The configuration and the suite of a run. The configuration is read, overridden and validated before
the suite is looked at. -/
def prepare (options : Options) (inputs : Inputs) : Except ConfigError (HarnessConfig × SuiteFile) := do
  let base ← inputs.config
  let overridden := base.applyOverrides inputs.lookup
  overridden.verdict
  if options.validated then overridden.config.validate
  let suite ← inputs.suite
  .ok (overridden.config, suite)

def harness {σ : Type} (options : Options) (config : HarnessConfig) (transport : Transport σ) : Harness σ :=
  let configured := Harness.ofConfig config transport
  match options.delay with
  | none => configured
  | some delay => configured.withInterCallDelay delay

abbrev Reports := List SuiteReport

def Reports.success (reports : Reports) : Bool := reports.all SuiteReport.isSuccess

def Reports.text (reports : Reports) : String := String.join (reports.map SuiteReport.render)

def runIf {σ : Type} (selected : Bool) (run : σ → Run SuiteReport σ) (state : σ) :
    Run Reports σ :=
  if selected then
    let run := run state
    ⟨[run.result], run.trace, run.state⟩
  else ⟨[], [], state⟩

/-- Runs the selected suites. The scans come first. -/
def runSuites {σ : Type} (harness : Harness σ) (only : Option Selection) (suite : SuiteFile) (state : σ) :
    Run Reports σ :=
  let scans := runIf (only ≠ some .analysis) (harness.runScanSuite suite.scan) state
  let analyses := runIf (only ≠ some .scan) (harness.runAnalysisSuite suite.analysis) scans.state
  ⟨scans.result ++ analyses.result, scans.trace ++ analyses.trace, analyses.state⟩

def conduct {σ : Type} (options : Options) (transport : Transport σ)
    (prepared : HarnessConfig × SuiteFile) (state : σ) : Run Reports σ :=
  runSuites (harness options prepared.1 transport) options.only prepared.2 state

/-- A whole run: the reports, or why it was given up before anything was sent. -/
def execute {σ : Type} (options : Options) (inputs : Inputs) (transport : Transport σ) (state : σ) :
    Exchange ConfigError Reports σ :=
  match prepare options inputs with
  | .error error => .refused error state
  | .ok prepared =>
    let run := conduct options transport prepared state
    ⟨.ok run.result, run.trace, run.state⟩

end Runner

end ScanCheck
