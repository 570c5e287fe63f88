import ScanCheck.Harness.Script
import ScanCheck.Runner.Program

namespace ScanCheck

def FileFault.ofError : IO.Error → FileFault
  | .inappropriateType _ code _ => if code = 21 then .isDirectory else .notDirectory
  | _ => .notFound

def readBytes (path : String) : IO (Except FileFault Bytes) := do
  try
    return .ok (← IO.FS.readBinFile ⟨path⟩).toList
  catch error => return .error (.ofError error)

def gather {α : Type} (names : List String) (find : String → IO α) : IO (List (String × α)) :=
  names.mapM fun name => return (name, ← find name)

def longestWait : Nat := 0x80000000

def wait (milliseconds : Nat) : IO Unit := do
  for _ in [0 : milliseconds / longestWait] do
    IO.sleep (UInt32.ofNat longestWait)
  IO.sleep (UInt32.ofNat (milliseconds % longestWait))

/-- Short words in place of those of the libraries. -/
@[reducible] def shortWords : Codec.Wording where
  json _ _ := "not JSON of the wanted type"
  toml _ _ := "not TOML of the wanted type"

end ScanCheck

open ScanCheck in
def main (arguments : List String) : IO UInt32 := do
  let files ← gather (Runner.namedFiles arguments) readBytes
  let settings ← gather Overrides.names fun name => IO.getEnv name
  let surroundings : Runner.Surroundings :=
    { files := fun path => (files.lookup path).getD (.error .notFound)
      lookup := fun name => (settings.lookup name).join
      network := Probe.offline }
  let _ : Codec.Wording := shortWords
  let run := Runner.program surroundings unreachable arguments ()
  for event in run.trace do
    match event with
    | .send _ => pure ()
    | .pause length => wait length.milliseconds
  IO.print run.result.output
  IO.eprint run.result.complaint
  return run.result.exitCode
