import ScanCheck.Probe
import ScanCheck.Runner.Arguments

namespace ScanCheck.Runner

inductive Abort
  | usage (error : UsageError)
  | config (error : ConfigError)
  | unreachable (target : String)
deriving DecidableEq, Repr

def Abort.message : Abort → String
  | .usage error => "error: " ++ error.message
  | .config error => "run aborted: " ++ error.message
  | .unreachable target => "run aborted: network probe to " ++ target ++ " failed"

inductive Ending
  | shown (text : String)
  | completed (reports : Reports)
  | aborted (abort : Abort)
deriving DecidableEq

namespace Ending

def exitCode : Ending → UInt32
  | .shown _ => 0
  | .completed reports => if reports.success then 0 else 1
  | .aborted _ => 2

def output : Ending → String
  | .shown text => text
  | .completed reports => reports.text
  | .aborted _ => ""

def complaint : Ending → String
  | .aborted abort => abort.message ++ "\n"
  | _ => ""

end Ending

/-- What the program knows of the world around it. -/
structure Surroundings where
  files : ReadFile
  lookup : Lookup
  network : Probe.Network

def namedFiles (arguments : List String) : List String :=
  match Command.read arguments with
  | .ok (.run arguments) => arguments.config.toList ++ [arguments.suite]
  | _ => []

def Surroundings.inputs [Codec.Wording] (surroundings : Surroundings) (arguments : Arguments) : Inputs :=
  .ofFiles surroundings.files arguments.config surroundings.lookup arguments.suite

/-- Carries a run out. The probe comes after all that can be wrong with the inputs. -/
def launch {σ : Type} [Codec.Wording] (surroundings : Surroundings) (transport : Transport σ)
    (arguments : Arguments) (state : σ) : Run Ending σ :=
  let options : Options := { only := arguments.only }
  match prepare options (surroundings.inputs arguments) with
  | .error error => ⟨.aborted (.config error), [], state⟩
  | .ok prepared =>
    let source := Probe.localAddress surroundings.network arguments.probeTarget
    if arguments.skipProbe || source.isSome then
      let run := conduct options transport prepared state
      ⟨.completed run.result, run.trace, run.state⟩
    else ⟨.aborted (.unreachable arguments.probeTarget), [], state⟩

def program {σ : Type} [Codec.Wording] (surroundings : Surroundings) (transport : Transport σ)
    (arguments : List String) (state : σ) : Run Ending σ :=
  match Command.read arguments with
  | .error error => ⟨.aborted (.usage error), [], state⟩
  | .ok .help => ⟨.shown helpText, [], state⟩
  | .ok .version => ⟨.shown versionText, [], state⟩
  | .ok (.run arguments) => launch surroundings transport arguments state

end ScanCheck.Runner
