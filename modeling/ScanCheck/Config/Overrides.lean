import ScanCheck.Config.Basic
import ScanCheck.Text.Blank

namespace ScanCheck

abbrev Lookup := String → Option String

namespace Overrides

def hostName : String := "SCAN_HARNESS_HOST"

def usernameName : String := "SCAN_HARNESS_USERNAME"

def delayName : String := "SCAN_HARNESS_DELAY_MS"

def insecureName : String := "SCAN_HARNESS_INSECURE"

def names : List String := [hostName, usernameName, delayName, insecureName]

def yesWords : List String := ["1", "true", "yes", "on"]

def noWords : List String := ["0", "false", "no", "off", ""]

/-- The flag that a text stands for, up to the case of ASCII letters and white space at its ends. -/
def readFlag? (given : String) : Option Bool :=
  let word := String.ofList ((Text.trim given.toList).map Text.foldAscii)
  if word ∈ yesWords then some true
  else if word ∈ noWords then some false
  else none

end Overrides

/-- What applying overrides leaves behind: the configuration, and the first refusal if there is one. -/
structure Overridden where
  config : HarnessConfig
  verdict : Except ConfigError Unit

namespace HarnessConfig

open Overrides

def overrideNames (config : HarnessConfig) (lookup : Lookup) : HarnessConfig :=
  { config with
    host := (lookup hostName).getD config.host
    username := (lookup usernameName).getD config.username }

def overrideDelay (config : HarnessConfig) (lookup : Lookup) : Except ConfigError HarnessConfig :=
  match lookup delayName with
  | none => .ok config
  | some given =>
    match Decimal.readUInt64? given with
    | some delay => .ok { config with interCallDelayMs := delay }
    | none => .error (.invalid (.notADelay given))

def overrideInsecure (config : HarnessConfig) (lookup : Lookup) : Except ConfigError HarnessConfig :=
  match lookup insecureName with
  | none => .ok config
  | some given =>
    match readFlag? given with
    | some flag => .ok { config with insecureSkipVerify := flag }
    | none => .error (.invalid (.notAFlag given))

def applyOverrides (config : HarnessConfig) (lookup : Lookup) : Overridden :=
  let named := config.overrideNames lookup
  match named.overrideDelay lookup with
  | .error error => ⟨named, .error error⟩
  | .ok delayed =>
    match delayed.overrideInsecure lookup with
    | .error error => ⟨delayed, .error error⟩
    | .ok flagged => ⟨flagged, .ok ()⟩

end HarnessConfig

end ScanCheck
