import ScanCheck.Proofs.Config.Overrides

namespace ScanCheck

/-- The texts of one lookup, and those of an earlier one where it has none. -/
def Lookup.over (later earlier : Lookup) : Lookup := fun name => (later name).or (earlier name)

@[simp] theorem Lookup.over_self (lookup : Lookup) : lookup.over lookup = lookup := by
  funext name
  exact Option.or_self

namespace HarnessConfig

open Overrides

variable {config : HarnessConfig} {lookup later : Lookup}

theorem overrideNames_over (config : HarnessConfig) (lookup later : Lookup) :
    (config.overrideNames lookup).overrideNames later = config.overrideNames (later.over lookup) := by
  have names (later earlier : Option String) (old : String) :
      later.getD (earlier.getD old) = (later.or earlier).getD old := by
    cases later <;> rfl
  simp only [overrideNames, Lookup.over, names]

/-- What overrides leave, they leave again, by the same course. -/
theorem Course.again {left : Overridden} (course : Course config lookup left) : Course left.config lookup left := by
  have names := config.overrideNames_over lookup lookup
  rw [Lookup.over_self] at names
  cases course with
  | @delayRefused given found senseless =>
      have again : Course (config.overrideNames lookup) lookup
          ⟨(config.overrideNames lookup).overrideNames lookup, .error (.invalid (.notADelay given))⟩ :=
        .delayRefused found senseless
      rwa [names] at again
  | @flagRefused delay given delays found senseless =>
      have again : Course { config.overrideNames lookup with interCallDelayMs := delay } lookup
          ⟨{ (config.overrideNames lookup).overrideNames lookup with interCallDelayMs := delay },
            .error (.invalid (.notAFlag given))⟩ := .flagRefused delays.again found senseless
      rwa [names] at again
  | @accepted delay flag delays flags =>
      have again : Course
          { config.overrideNames lookup with interCallDelayMs := delay, insecureSkipVerify := flag } lookup
          ⟨{ (config.overrideNames lookup).overrideNames lookup with
            interCallDelayMs := delay, insecureSkipVerify := flag }, .ok ()⟩ :=
        .accepted delays.again flags.again
      rwa [names] at again

/-- Where two lookups are accepted one after the other, the later one over the earlier one is. -/
theorem Course.over {middle final : HarnessConfig} (first : Course config lookup ⟨middle, .ok ()⟩)
    (second : Course middle later ⟨final, .ok ()⟩) : Course config (later.over lookup) ⟨final, .ok ()⟩ := by
  cases first with
  | @accepted delay flag delays flags =>
      cases second with
      | @accepted finalDelay finalFlag finalDelays finalFlags =>
          have whole : Course config (later.over lookup)
              ⟨{ config.overrideNames (later.over lookup) with
                interCallDelayMs := finalDelay, insecureSkipVerify := finalFlag }, .ok ()⟩ :=
            .accepted (delays.over finalDelays) (flags.over finalFlags)
          rwa [← overrideNames_over] at whole

/-- How overrides settle, by what a lookup has for each of the four settings. -/
structure Settles (config : HarnessConfig) (lookup : Lookup) (left : Overridden) : Prop where
  again : left.config.applyOverrides lookup = left
  accepted_iff : left.verdict = .ok () ↔
    (∀ given, lookup "SCAN_HARNESS_DELAY_MS" = some given → ∃ delay, WritesDelay given delay) ∧
      ∀ given, lookup "SCAN_HARNESS_INSECURE" = some given → ∃ flag, WritesFlag given flag
  accepted : left.verdict = .ok () → ∃ delay flag,
    Adopted WritesDelay config.interCallDelayMs (lookup "SCAN_HARNESS_DELAY_MS") delay ∧
      Adopted WritesFlag config.insecureSkipVerify (lookup "SCAN_HARNESS_INSECURE") flag ∧
      left.config = { config with
        host := (lookup "SCAN_HARNESS_HOST").getD config.host
        username := (lookup "SCAN_HARNESS_USERNAME").getD config.username
        interCallDelayMs := delay
        insecureSkipVerify := flag }
  /-- A delay that is none stops the overrides before they look at the flag. -/
  delayRefused : ∀ given, lookup "SCAN_HARNESS_DELAY_MS" = some given → (∀ delay, ¬WritesDelay given delay) →
    left.config = { config with
      host := (lookup "SCAN_HARNESS_HOST").getD config.host
      username := (lookup "SCAN_HARNESS_USERNAME").getD config.username } ∧
    ∃ error, left.verdict = .error error ∧ error.message =
      "invalid configuration: SCAN_HARNESS_DELAY_MS: not a number of milliseconds: " ++ Text.quoted given
  flagRefused : ∀ delay given,
    Adopted WritesDelay config.interCallDelayMs (lookup "SCAN_HARNESS_DELAY_MS") delay →
    lookup "SCAN_HARNESS_INSECURE" = some given → (∀ flag, ¬WritesFlag given flag) →
      left.config = { config with
        host := (lookup "SCAN_HARNESS_HOST").getD config.host
        username := (lookup "SCAN_HARNESS_USERNAME").getD config.username
        interCallDelayMs := delay } ∧
      ∃ error, left.verdict = .error error ∧ error.message =
        "invalid configuration: SCAN_HARNESS_INSECURE: not a boolean: " ++ Text.quoted given
  inTurn : ∀ later : Lookup, left.verdict = .ok () → (left.config.applyOverrides later).verdict = .ok () →
    left.config.applyOverrides later = config.applyOverrides (later.over lookup)
  scheme : left.config.scheme = config.scheme
  credentials : left.config.credentials = config.credentials
  services : left.config.services = config.services

theorem invalid_message (defect : Defect) {lead rest front : String} (reason : defect.reason = lead ++ rest)
    (whole : "invalid configuration: " ++ defect.field ++ ": " ++ lead = front) :
    (ConfigError.invalid defect).message = front ++ rest := by
  have message : (ConfigError.invalid defect).message =
      "invalid configuration: " ++ defect.field ++ ": " ++ defect.reason := rfl
  rw [message, reason, ← String.append_assoc, whole]

theorem notADelay_message (given : String) : (ConfigError.invalid (.notADelay given)).message =
    "invalid configuration: SCAN_HARNESS_DELAY_MS: not a number of milliseconds: " ++ Text.quoted given := by
  have reason : (Defect.notADelay given).reason = "not a number of milliseconds: " ++ Text.quoted given := rfl
  have field : (Defect.notADelay given).field = "SCAN_HARNESS_DELAY_MS" := rfl
  refine invalid_message _ reason ?_
  rw [field]
  decide +kernel

theorem notAFlag_message (given : String) : (ConfigError.invalid (.notAFlag given)).message =
    "invalid configuration: SCAN_HARNESS_INSECURE: not a boolean: " ++ Text.quoted given := by
  have reason : (Defect.notAFlag given).reason = "not a boolean: " ++ Text.quoted given := rfl
  have field : (Defect.notAFlag given).field = "SCAN_HARNESS_INSECURE" := rfl
  refine invalid_message _ reason ?_
  rw [field]
  decide +kernel

/-- Overrides leave the same and say the same when they are applied again. They are accepted exactly if the delay
and the flag are written as such; otherwise everything in front of the refused setting is in force and nothing
else, and the error names the setting and quotes its text. Accepted lookups one after the other come to the
later one over the earlier one. -/
theorem overrides_settle (config : HarnessConfig) (lookup : Lookup) :
    Settles config lookup (config.applyOverrides lookup) := by
  have course := config.applyOverrides_course lookup
  obtain ⟨scheme, credentials, services⟩ := config.applyOverrides_kept lookup
  refine { again := applyOverrides_of_course course.again, accepted_iff := ?accepted_iff, accepted := ?accepted,
           delayRefused := ?delayRefused, flagRefused := ?flagRefused, inTurn := ?inTurn, scheme, credentials,
           services }
  case accepted_iff =>
    generalize config.applyOverrides lookup = left at course
    cases course with
    | delayRefused found senseless =>
        refine ⟨nofun, fun sense => ?_⟩
        obtain ⟨delay, written⟩ := sense.1 _ found
        exact absurd written (senseless delay)
    | flagRefused delays found senseless =>
        refine ⟨nofun, fun sense => ?_⟩
        obtain ⟨flag, written⟩ := sense.2 _ found
        exact absurd written (senseless flag)
    | accepted delays flags => exact ⟨fun _ => ⟨delays.sense, flags.sense⟩, fun _ => rfl⟩
  case accepted =>
    intro verdict
    generalize config.applyOverrides lookup = left at course verdict
    cases course with
    | delayRefused => cases verdict
    | flagRefused => cases verdict
    | accepted delays flags => exact ⟨_, _, delays, flags, rfl⟩
  case delayRefused =>
    intro given found senseless
    rw [applyOverrides_of_course (.delayRefused found senseless)]
    exact ⟨rfl, _, rfl, notADelay_message given⟩
  case flagRefused =>
    intro delay given delays found senseless
    rw [applyOverrides_of_course (.flagRefused delays found senseless)]
    exact ⟨rfl, _, rfl, notAFlag_message given⟩
  case inTurn =>
    intro later verdict final
    have second := (config.applyOverrides lookup).config.applyOverrides_course later
    generalize (config.applyOverrides lookup).config.applyOverrides later = right at second final
    generalize config.applyOverrides lookup = left at course verdict second
    obtain ⟨middle, _⟩ := left
    obtain ⟨right, _⟩ := right
    cases verdict
    cases final
    exact (applyOverrides_of_course (course.over second)).symm

end HarnessConfig

end ScanCheck
