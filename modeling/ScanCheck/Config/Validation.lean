import ScanCheck.Config.Basic

namespace ScanCheck.HarnessConfig

def requiredServices : List String := [clamav, klocwork]

/-- The defects of a configuration in the order in which they are looked for. -/
def firstDefect? (config : HarnessConfig) : Option Defect :=
  if config.host = "" then some .emptyHost
  else if config.username = "" then some .emptyUsername
  else if ¬(config.scheme = "http" ∨ config.scheme = "https") then some .unknownScheme
  else
    match requiredServices.find? fun service => !config.services.contains service with
    | some service => some (.missingService service)
    | none =>
      (config.services.entries.find? fun entry => entry.2.port == 0).map fun entry => .zeroPort entry.1

def validate (config : HarnessConfig) : Except ConfigError Unit :=
  match config.firstDefect? with
  | none => .ok ()
  | some defect => .error (.invalid defect)

end ScanCheck.HarnessConfig
