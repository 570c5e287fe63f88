import ScanCheck.Proofs.Harness.Submissions
import ScanCheck.Proofs.Harness.Verdicts
import ScanCheck.Runner.Basic

namespace ScanCheck.Runner

variable {σ : Type}

/-- The configuration that a run starts from: what a text says, or the default one without a text. -/
def Configured [Codec.Wording] (text : Option String) (config : HarnessConfig) : Prop :=
  match text with
  | none => config = .default
  | some source => HarnessConfig.codec.fromToml source = .ok config

/-- What keeps a run from taking place: the error of a stage that all stages before it let through. -/
inductive Hindrance [Codec.Wording] (text : Option String) (lookup : Lookup) (suite : String) : ConfigError → Prop
  | configuration {source : String} {error : ConfigError} (given : text = some source)
      (refused : HarnessConfig.codec.fromToml source = .error error) : Hindrance text lookup suite error
  | override {base : HarnessConfig} {error : ConfigError} (configured : Configured text base)
      (refused : (base.applyOverrides lookup).verdict = .error error) : Hindrance text lookup suite error
  | validation {base : HarnessConfig} {error : ConfigError} (configured : Configured text base)
      (overridden : (base.applyOverrides lookup).verdict = .ok ())
      (refused : (base.applyOverrides lookup).config.validate = .error error) :
      Hindrance text lookup suite error
  | suite {base : HarnessConfig} {error : ConfigError} (configured : Configured text base)
      (overridden : (base.applyOverrides lookup).verdict = .ok ())
      (valid : (base.applyOverrides lookup).config.validate = .ok ())
      (refused : SuiteFile.codec.fromToml suite = .error error) : Hindrance text lookup suite error

/-- The configuration and the cases of a run that takes place. -/
structure Ready [Codec.Wording] (text : Option String) (lookup : Lookup) (suite : String) (config : HarnessConfig)
    (cases : SuiteFile) : Prop where
  overridden : ∃ base, Configured text base ∧ base.applyOverrides lookup = ⟨config, .ok ()⟩
  valid : config.validate = .ok ()
  suite : SuiteFile.codec.fromToml suite = .ok cases

section Inputs

variable [Codec.Wording] {text : Option String} {lookup : Lookup} {suite : String} {options : Options}

theorem ofTexts_config {config : HarnessConfig} (configured : Configured text config) :
    (Inputs.ofTexts text lookup suite).config = .ok config := by
  cases text with
  | none => exact congrArg Except.ok configured.symm
  | some source => exact configured

theorem prepare_configured (validated : options.validated = true) {base : HarnessConfig}
    {overridden : Overridden} (configured : Configured text base)
    (applied : base.applyOverrides lookup = overridden) :
    prepare options (.ofTexts text lookup suite) = (do
      overridden.verdict
      overridden.config.validate
      let parsed ← SuiteFile.codec.fromToml suite
      .ok (overridden.config, parsed)) := by
  subst applied
  rw [prepare, ofTexts_config configured, validated]
  rfl

theorem prepare_of_hindrance (validated : options.validated = true) {error : ConfigError}
    (hindrance : Hindrance text lookup suite error) :
    prepare options (.ofTexts text lookup suite) = .error error := by
  cases hindrance with
  | configuration given refused =>
      subst given
      rw [prepare, Inputs.ofTexts, refused]
      rfl
  | override configured refused =>
      rw [prepare_configured validated configured rfl, refused]
      rfl
  | validation configured overridden refused =>
      rw [prepare_configured validated configured rfl, overridden, refused]
      rfl
  | suite configured overridden valid refused =>
      rw [prepare_configured validated configured rfl, overridden, valid, refused]
      rfl

/-- A defect of the configuration shows before the suite is looked at. -/
example : prepare {} (.ofTexts (some "host = \"\"") (fun _ => none) "[") = .error (.invalid .emptyHost) := by
  cbv

theorem prepare_of_ready (validated : options.validated = true) {config : HarnessConfig} {cases : SuiteFile}
    (ready : Ready text lookup suite config cases) :
    prepare options (.ofTexts text lookup suite) = .ok (config, cases) := by
  obtain ⟨⟨base, configured, overridden⟩, valid, parsed⟩ := ready
  rw [prepare_configured validated configured overridden, parsed, valid]
  rfl

theorem Ready.unhindered {config : HarnessConfig} {cases : SuiteFile} (ready : Ready text lookup suite config cases)
    (error : ConfigError) : ¬ Hindrance text lookup suite error := by
  intro hindrance
  have validated : ({} : Options).validated = true := rfl
  cases (prepare_of_hindrance validated hindrance).symm.trans (prepare_of_ready validated ready)

/-- The stages are tried in order, so one of them is the first to fail or none does. -/
theorem hindered_or_ready (text : Option String) (lookup : Lookup) (suite : String) :
    (∃ error, Hindrance text lookup suite error) ∨ ∃ config cases, Ready text lookup suite config cases := by
  have start : (∃ error, Hindrance text lookup suite error) ∨ ∃ base, Configured text base := by
    cases text with
    | none => exact .inr ⟨.default, rfl⟩
    | some source =>
        cases parsed : HarnessConfig.codec.fromToml source with
        | error error => exact .inl ⟨error, .configuration rfl parsed⟩
        | ok base => exact .inr ⟨base, parsed⟩
  rcases start with hindered | ⟨base, configured⟩
  · exact .inl hindered
  cases overridden : (base.applyOverrides lookup).verdict with
  | error error => exact .inl ⟨error, .override configured overridden⟩
  | ok _ =>
      cases valid : (base.applyOverrides lookup).config.validate with
      | error error => exact .inl ⟨error, .validation configured overridden valid⟩
      | ok _ =>
          cases parsed : SuiteFile.codec.fromToml suite with
          | error error => exact .inl ⟨error, .suite configured overridden valid parsed⟩
          | ok cases =>
              have applied : base.applyOverrides lookup = ⟨(base.applyOverrides lookup).config, .ok ()⟩ :=
                congrArg (Overridden.mk _) overridden
              exact .inr ⟨_, cases, ⟨base, configured, applied⟩, valid, parsed⟩

end Inputs

/-- The state in which the analyses start: what the scans left, or the first one if there were no scans. -/
def beforeAnalyses (harness : Harness σ) (only : Option Selection) (suite : SuiteFile) (state : σ) : σ :=
  if only = some .analysis then state else (harness.runScanSuite suite.scan state).state

/-- What a run comes to that takes place. -/
structure Course (harness : Harness σ) (only : Option Selection) (suite : SuiteFile) (state : σ)
    (done : Exchange ConfigError Reports σ) : Prop where
  both : only = none →
    let scans := harness.runScanSuite suite.scan state
    let analyses := harness.runAnalysisSuite suite.analysis scans.state
    done = ⟨.ok [scans.result, analyses.result], scans.trace ++ analyses.trace, analyses.state⟩
  scansOnly : only = some .scan →
    let scans := harness.runScanSuite suite.scan state
    done = ⟨.ok [scans.result], scans.trace, scans.state⟩
  analysesOnly : only = some .analysis →
    let analyses := harness.runAnalysisSuite suite.analysis state
    done = ⟨.ok [analyses.result], analyses.trace, analyses.state⟩
  /-- One request for every case of a selected suite is sent, and no other; all scans are sent first. -/
  sends : ∃ scans analyses, sent done.trace = scans ++ analyses ∧
    scans.map .ok = (if only = some .analysis then [] else suite.scan).map
      (Harness.scanRequest harness.config) ∧
    analyses.map .ok = (if only = some .scan then [] else suite.analysis).map
      (Harness.analysisRequest harness.config)
  /-- The run succeeds if every case of a selected suite was answered with status 200. -/
  success : ∃ reports, done.result = .ok reports ∧ (reports.success = true ↔
    (only ≠ some .analysis →
      harness.AllAccepted (.ofRequest (Harness.scanRequest harness.config)) suite.scan state) ∧
    (only ≠ some .scan →
      harness.AllAccepted (.ofRequest (Harness.analysisRequest harness.config)) suite.analysis
        (beforeAnalyses harness only suite state)))

theorem map_ok_built {π : Type} {request : π → Except HarnessError Request}
    (built : ∀ case, ∃ sent, request case = .ok sent) (cases : List π) :
    (cases.filterMap fun case => (request case).toOption).map .ok = cases.map request := by
  induction cases with
  | nil => rfl
  | cons case cases ih =>
      obtain ⟨sent, first⟩ := built case
      rw [List.map_cons, ← ih, List.filterMap_cons, first]
      rfl

theorem harness_eq (options : Options) (config : HarnessConfig) (transport : Transport σ) :
    harness options config transport = ⟨config, transport, options.delay.getD config.interCallDelay⟩ := by
  unfold harness
  cases options.delay <;> rfl

section Suites

variable (harness : Harness σ) (suite : SuiteFile) (state : σ)

theorem runSuites_both :
    let scans := harness.runScanSuite suite.scan state
    let analyses := harness.runAnalysisSuite suite.analysis scans.state
    runSuites harness none suite state =
      ⟨[scans.result, analyses.result], scans.trace ++ analyses.trace, analyses.state⟩ :=
  rfl

theorem runSuites_scan :
    let scans := harness.runScanSuite suite.scan state
    runSuites harness (some .scan) suite state = ⟨[scans.result], scans.trace, scans.state⟩ :=
  congrArg (fun trace => Run.mk _ trace _) (List.append_nil _)

theorem runSuites_analysis :
    let analyses := harness.runAnalysisSuite suite.analysis state
    runSuites harness (some .analysis) suite state = ⟨[analyses.result], analyses.trace, analyses.state⟩ :=
  rfl

theorem sent_runSuites (only : Option Selection) :
    sent (runSuites harness only suite state).trace =
      ((if only = some .analysis then [] else suite.scan).filterMap fun case =>
        (Harness.scanRequest harness.config case).toOption) ++
      ((if only = some .scan then [] else suite.analysis).filterMap fun case =>
        (Harness.analysisRequest harness.config case).toOption) := by
  have scanned := harness.sent_ofRequest clamav ScanPayload.label (Harness.scanRequest harness.config) suite.scan
    state
  have analysed (start : σ) := harness.sent_ofRequest klocwork AnalysisPayload.label
    (Harness.analysisRequest harness.config) suite.analysis start
  match only with
  | none =>
      rw [runSuites_both, sent_append]
      exact congrArg₂ (· ++ ·) scanned (analysed _)
  | some .scan =>
      rw [runSuites_scan]
      exact scanned.trans (List.append_nil _).symm
  | some .analysis =>
      rw [runSuites_analysis]
      exact analysed state

theorem success_runSuites (only : Option Selection) :
    (runSuites harness only suite state).result.success = true ↔
      (only ≠ some .analysis →
        harness.AllAccepted (.ofRequest (Harness.scanRequest harness.config)) suite.scan state) ∧
      (only ≠ some .scan →
        harness.AllAccepted (.ofRequest (Harness.analysisRequest harness.config)) suite.analysis
          (beforeAnalyses harness only suite state)) := by
  have scanned := runSuite_isSuccess_iff harness clamav ScanPayload.label
    (.ofRequest (Harness.scanRequest harness.config)) suite.scan state
  have analysed (start : σ) := runSuite_isSuccess_iff harness klocwork AnalysisPayload.label
    (.ofRequest (Harness.analysisRequest harness.config)) suite.analysis start
  match only with
  | none =>
      rw [runSuites_both]
      simp only [Reports.success, List.all_cons, List.all_nil, Bool.and_true, Bool.and_eq_true]
      refine (and_congr scanned (analysed _)).trans ?_
      simp [beforeAnalyses]
  | some .scan =>
      rw [runSuites_scan]
      simp only [Reports.success, List.all_cons, List.all_nil, Bool.and_true]
      refine scanned.trans ?_
      simp
  | some .analysis =>
      rw [runSuites_analysis]
      simp only [Reports.success, List.all_cons, List.all_nil, Bool.and_true]
      refine (analysed _).trans ?_
      simp [beforeAnalyses]

theorem runSuites_course (valid : harness.config.validate = .ok ()) (only : Option Selection) :
    let run := runSuites harness only suite state
    Course harness only suite state ⟨.ok run.result, run.trace, run.state⟩ where
  both := by rintro rfl; rfl
  scansOnly := by
    rintro rfl
    rw [runSuites_scan]
  analysesOnly := by rintro rfl; rfl
  sends := ⟨_, _, sent_runSuites harness suite state only,
    map_ok_built (fun case => (scanRequest_submission valid case).imp fun _ built => built.1) _,
    map_ok_built (fun case => (analysisRequest_submission valid case).imp fun _ built => built.1) _⟩
  success := ⟨_, rfl, success_runSuites harness suite state only⟩

end Suites

section Runs

variable [Codec.Wording] {text : Option String} {lookup : Lookup} {suite : String}

theorem execute_of_hindrance {options : Options} (validated : options.validated = true) {error : ConfigError}
    (hindrance : Hindrance text lookup suite error) (transport : Transport σ) (state : σ) :
    execute options (.ofTexts text lookup suite) transport state = .refused error state := by
  rw [execute, prepare_of_hindrance validated hindrance]

theorem execute_of_ready {options : Options} (validated : options.validated = true) {config : HarnessConfig}
    {cases : SuiteFile} (ready : Ready text lookup suite config cases) (transport : Transport σ) (state : σ) :
    Course ⟨config, transport, options.delay.getD config.interCallDelay⟩ options.only cases state
      (execute options (.ofTexts text lookup suite) transport state) := by
  rw [execute, prepare_of_ready validated ready]
  simp only [conduct, harness_eq]
  exact runSuites_course _ cases state ready.valid options.only

end Runs

/-- A run over texts. If the configuration does not parse, an override is refused, the configuration is not
valid or the suite does not parse, it ends with the first of these errors and has sent and awaited nothing;
otherwise it takes its course. -/
theorem execute_course [Codec.Wording] (only : Option Selection) (delay : Option Duration) (text : Option String)
    (lookup : Lookup) (suiteText : String) (transport : Transport σ) (state : σ) :
    let done := execute { only, delay } (.ofTexts text lookup suiteText) transport state
    (∀ error, done.result = .error error ↔ Hindrance text lookup suiteText error) ∧
      (∀ error, done.result = .error error → done.trace = [] ∧ done.transport = state) ∧
      ((∀ error, ¬ Hindrance text lookup suiteText error) →
        ∃ config suite, Ready text lookup suiteText config suite ∧
          Course ⟨config, transport, delay.getD config.interCallDelay⟩ only suite state done) := by
  intro done
  have validated : ({ only, delay } : Options).validated = true := rfl
  have refused {error : ConfigError} (hindrance : Hindrance text lookup suiteText error) :
      done = .refused error state :=
    execute_of_hindrance validated hindrance transport state
  have taken {config : HarnessConfig} {suite : SuiteFile} (ready : Ready text lookup suiteText config suite) :
      Course ⟨config, transport, delay.getD config.interCallDelay⟩ only suite state done :=
    execute_of_ready validated ready transport state
  have stopped {error : ConfigError} (failed : done.result = .error error) :
      Hindrance text lookup suiteText error := by
    rcases hindered_or_ready text lookup suiteText with ⟨first, hindrance⟩ | ⟨config, suite, ready⟩
    · rw [refused hindrance] at failed
      cases failed
      exact hindrance
    · obtain ⟨reports, completed, -⟩ := (taken ready).success
      cases failed.symm.trans completed
  refine ⟨fun error => ⟨stopped, fun hindrance => ?_⟩, fun error failed => ?_, fun smooth => ?_⟩
  · rw [refused hindrance]
    rfl
  · rw [refused (stopped failed)]
    exact ⟨rfl, rfl⟩
  · rcases hindered_or_ready text lookup suiteText with ⟨first, hindrance⟩ | ⟨config, suite, ready⟩
    · exact absurd hindrance (smooth first)
    · exact ⟨config, suite, ready, taken ready⟩

/-- A run over the default configuration, whose scan is accepted and whose analysis is not. -/
theorem execute_course_of_default :
    let _ : Codec.Wording := { json := fun _ _ => "", toml := fun _ _ => "" }
    let suite := "[[scan]]\nproject = \"p\"\ncomponents = []\n\n" ++
      "[[analysis]]\nproject = \"q\"\ncomponent = \"c\"\nurl = \"u\"\nkw_scan_link = \"\"\n"
    let script : Script := [.respond ⟨200, []⟩, .respond ⟨500, utf8 "boom"⟩, .respond ⟨200, []⟩]
    let harness : Harness Script := ⟨.default, Script.transport, .ofMilliseconds 3000⟩
    let scans := harness.runScanSuite [⟨"p", []⟩] script
    let analyses := harness.runAnalysisSuite [⟨"q", "c", "u", ""⟩] scans.state
    let done := execute {} (.ofTexts none (fun _ => none) suite) Script.transport script
    (∀ error, ¬ Hindrance none (fun _ => none) suite error) ∧
      done = ⟨.ok [scans.result, analyses.result], scans.trace ++ analyses.trace, analyses.state⟩ ∧
      ∃ reports, done.result = .ok reports ∧ reports.success = false := by
  intro words suite script harness scans analyses done
  have parsed : SuiteFile.codec.fromToml suite = .ok ⟨[⟨"p", []⟩], [⟨"q", "c", "u", ""⟩]⟩ := by decide +kernel
  have valid : HarnessConfig.default.validate = .ok () := by decide +kernel
  have ready : Ready none (fun _ => none) suite .default ⟨[⟨"p", []⟩], [⟨"q", "c", "u", ""⟩]⟩ :=
    ⟨⟨.default, rfl, rfl⟩, valid, parsed⟩
  obtain ⟨-, -, taken⟩ := execute_course none none none (fun _ => none) suite Script.transport script
  obtain ⟨config, cases, ⟨⟨base, rfl, overridden⟩, -, again⟩, course⟩ := taken ready.unhindered
  cases overridden
  cases parsed.symm.trans again
  have both : done = ⟨.ok [scans.result, analyses.result], scans.trace ++ analyses.trace, analyses.state⟩ :=
    course.both rfl
  exact ⟨ready.unhindered, both, _, congrArg Exchange.result both, by decide +kernel⟩

end ScanCheck.Runner
