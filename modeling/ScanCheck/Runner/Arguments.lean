import ScanCheck.Runner.Basic

namespace ScanCheck.Runner

structure Arguments where
  config : Option String := none
  suite : String := "config/tdvf-suite.toml"
  only : Option Selection := none
  skipProbe : Bool := false
  probeTarget : String := "8.8.8.8:80"
  logLevel : String := "info"
deriving DecidableEq, Repr

inductive Command
  | run (arguments : Arguments)
  | help
  | version
deriving DecidableEq, Repr

inductive ValueOption
  | config
  | suite
  | only
  | probeTarget
  | logLevel
deriving DecidableEq, Repr

inductive Switch
  | takes (option : ValueOption)
  | skipProbe
  | help
  | version
deriving DecidableEq, Repr

inductive UsageError
  | unknown (argument : String)
  | missingValue (option : ValueOption)
  | surplusValue (argument : String)
  | badValue (option : ValueOption) (value : String)
  | repeated (name : String)
deriving DecidableEq, Repr

def ValueOption.name : ValueOption → String
  | .config => "--config"
  | .suite => "--suite"
  | .only => "--only"
  | .probeTarget => "--probe-target"
  | .logLevel => "--log-level"

def UsageError.message : UsageError → String
  | .unknown argument => "unexpected argument '" ++ argument ++ "'"
  | .missingValue option => "a value is required for '" ++ option.name ++ "'"
  | .surplusValue argument => "unexpected value in '" ++ argument ++ "'"
  | .badValue option value => "invalid value '" ++ value ++ "' for '" ++ option.name ++ "'"
  | .repeated name => "the argument '" ++ name ++ "' cannot be used multiple times"

def longSwitch? (name : String) : Option Switch :=
  [("config", .takes .config), ("suite", .takes .suite), ("only", .takes .only),
    ("skip-probe", .skipProbe), ("probe-target", .takes .probeTarget), ("log-level", .takes .logLevel),
    ("help", .help), ("version", .version)].lookup name

def shortSwitch? (name : Char) : Option Switch :=
  [('c', .takes .config), ('s', .takes .suite), ('l', .takes .logLevel), ('h', .help),
    ('V', .version)].lookup name

inductive Item
  | assign (option : ValueOption) (value : String)
  | await (option : ValueOption)
  | skipProbe
  | help
  | version
  | separator
deriving DecidableEq, Repr

def longItem (argument name : String) (value : Option String) : Except UsageError Item :=
  match longSwitch? name, value with
  | none, _ => .error (.unknown argument)
  | some (.takes option), some value => .ok (.assign option value)
  | some (.takes option), none => .ok (.await option)
  | some .skipProbe, none => .ok .skipProbe
  | some .help, none => .ok .help
  | some .version, none => .ok .version
  | some _, some _ => .error (.surplusValue argument)

/-- The item of a short option, with the rest of its argument. Short options without a value end the
reading, so nothing can follow them. -/
def shortItem (argument : String) (name : Char) (rest : List Char) : Except UsageError Item :=
  match shortSwitch? name, rest with
  | none, _ => .error (.unknown argument)
  | some (.takes option), [] => .ok (.await option)
  | some (.takes option), '=' :: value => .ok (.assign option (String.ofList value))
  | some (.takes option), value => .ok (.assign option (String.ofList value))
  | some .skipProbe, _ => .ok .skipProbe
  | some .help, _ => .ok .help
  | some .version, _ => .ok .version

/-- The item of an argument. A single dash is no option. -/
def item (argument : String) : Except UsageError Item :=
  match argument.toList with
  | ['-', '-'] => .ok .separator
  | '-' :: '-' :: rest =>
    let name := rest.takeWhile (· ≠ '=')
    let value := match rest.drop name.length with
      | _ :: value => some (String.ofList value)
      | [] => none
    longItem argument (String.ofList name) value
  | '-' :: name :: rest => shortItem argument name rest
  | _ => .error (.unknown argument)

/-- Whether an argument is an option, and so cannot be the value of the one before it. -/
def isOption (argument : String) : Bool :=
  match argument.toList with
  | '-' :: _ :: _ => true
  | _ => false

structure Given where
  config : Option String := none
  suite : Option String := none
  only : Option Selection := none
  probeTarget : Option String := none
  logLevel : Option String := none
  skipProbe : Bool := false

namespace Given

def arguments (given : Given) : Arguments :=
  let standard : Arguments := {}
  { config := given.config
    suite := given.suite.getD standard.suite
    only := given.only
    skipProbe := given.skipProbe
    probeTarget := given.probeTarget.getD standard.probeTarget
    logLevel := given.logLevel.getD standard.logLevel }

def has (given : Given) : ValueOption → Bool
  | .config => given.config.isSome
  | .suite => given.suite.isSome
  | .only => given.only.isSome
  | .probeTarget => given.probeTarget.isSome
  | .logLevel => given.logLevel.isSome

/-- Gives an option a value. A path cannot be empty. -/
def assign (given : Given) (option : ValueOption) (value : String) : Except UsageError Given :=
  if given.has option then .error (.repeated option.name)
  else
    match option with
    | .config =>
      if value = "" then .error (.badValue option value) else .ok { given with config := some value }
    | .suite =>
      if value = "" then .error (.badValue option value) else .ok { given with suite := some value }
    | .only =>
      if value = "scan" then .ok { given with only := some .scan }
      else if value = "analysis" then .ok { given with only := some .analysis }
      else .error (.badValue option value)
    | .probeTarget => .ok { given with probeTarget := some value }
    | .logLevel => .ok { given with logLevel := some value }

def readFrom (given : Given) : List String → Except UsageError Command
  | [] => .ok (.run given.arguments)
  | argument :: rest => do
    match ← item argument with
    | .assign option value => (← given.assign option value).readFrom rest
    | .await option =>
      match rest with
      | [] => .error (.missingValue option)
      | value :: rest =>
        if isOption value then .error (.missingValue option)
        else (← given.assign option value).readFrom rest
    | .skipProbe =>
      if given.skipProbe then .error (.repeated "--skip-probe")
      else Given.readFrom { given with skipProbe := true } rest
    | .help => .ok .help
    | .version => .ok .version
    | .separator =>
      match rest with
      | [] => .ok (.run given.arguments)
      | extra :: _ => .error (.unknown extra)

end Given

def Command.read (arguments : List String) : Except UsageError Command :=
  Given.readFrom {} arguments

def helpText : String :=
  "Run submission suites against the scan and static-analysis services\n\n" ++
  "Usage: scan-runner [OPTIONS]\n\n" ++
  "Options:\n" ++
  "  -c, --config <CONFIG>\n" ++
  "          Harness configuration file. Built-in defaults are used when omitted\n" ++
  "  -s, --suite <SUITE>\n" ++
  "          Suite file listing the cases to run [default: config/tdvf-suite.toml]\n" ++
  "      --only <ONLY>\n" ++
  "          Run only one of the suites [possible values: scan, analysis]\n" ++
  "      --skip-probe\n" ++
  "          Skip the network reachability check before the run\n" ++
  "      --probe-target <PROBE_TARGET>\n" ++
  "          [default: 8.8.8.8:80]\n" ++
  "  -l, --log-level <LOG_LEVEL>\n" ++
  "          Log filter, overridden by RUST_LOG [default: info]\n" ++
  "  -h, --help\n" ++
  "          Print help\n" ++
  "  -V, --version\n" ++
  "          Print version\n"

def versionText : String := "scan-runner 0.1.0\n"

end ScanCheck.Runner
