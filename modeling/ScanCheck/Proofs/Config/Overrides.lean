import ScanCheck.Config.Overrides
import ScanCheck.Proofs.Decimal.Numerals
import ScanCheck.Proofs.Text.Blank

namespace ScanCheck

namespace Overrides

/-- A delay is written as a numeral, and a numeral of more than 64 bits is no delay. -/
def WritesDelay (given : String) (delay : UInt64) : Prop := Decimal.Numeral given.toList delay.toNat

def flagWords : Bool → List String
  | true => yesWords
  | false => noWords

/-- A flag is written as one of its words, with white space around it and ASCII capitals in it at will. -/
def WritesFlag (given : String) (flag : Bool) : Prop :=
  ∃ word, Text.Trimmed given.toList word ∧ String.ofList (word.map Text.foldAscii) ∈ flagWords flag

theorem notMem_noWords {word : String} (yes : word ∈ yesWords) : word ∉ noWords := by
  have apart : ∀ word ∈ yesWords, word ∉ noWords := by decide
  exact apart word yes

theorem readFlag?_eq_some_iff {given : String} {flag : Bool} :
    readFlag? given = some flag ↔ WritesFlag given flag := by
  have written : WritesFlag given flag ↔
      String.ofList ((Text.trim given.toList).map Text.foldAscii) ∈ flagWords flag := by
    simp only [WritesFlag, ← Text.trim_eq_iff, exists_eq_left']
  rw [written, readFlag?]
  generalize String.ofList ((Text.trim given.toList).map Text.foldAscii) = word
  by_cases yes : word ∈ yesWords
  · cases flag <;> simp [flagWords, yes, notMem_noWords yes]
  · by_cases no : word ∈ noWords <;> cases flag <;> simp [flagWords, yes, no]

/-- What becomes of a setting: it stays as it is if there is no text for it, and is what its text stands for. -/
inductive Adopted {α : Type} (writes : String → α → Prop) (old : α) : Option String → α → Prop
  | kept : Adopted writes old none old
  | read {given : String} {new : α} (written : writes given new) : Adopted writes old (some given) new

section Setting

variable {α : Type} {writes : String → α → Prop} {old middle new : α} {first second : Option String}

theorem adopted_or_senseless (writes : String → α → Prop) (old : α) (found : Option String) :
    (∃ new, Adopted writes old found new) ∨ ∃ given, found = some given ∧ ∀ value, ¬writes given value := by
  cases found with
  | none => exact .inl ⟨old, .kept⟩
  | some given =>
      by_cases sense : ∃ value, writes given value
      · obtain ⟨value, written⟩ := sense
        exact .inl ⟨value, .read written⟩
      · exact .inr ⟨given, rfl, not_exists.mp sense⟩

theorem Adopted.again (adopted : Adopted writes old first new) : Adopted writes new first new := by
  cases adopted with
  | kept => exact .kept
  | read written => exact .read written

/-- What is adopted from a later text stays, and from an earlier one if there is no later. -/
theorem Adopted.over (earlier : Adopted writes old first middle) (later : Adopted writes middle second new) :
    Adopted writes old (second.or first) new := by
  cases later with
  | kept => exact earlier
  | read written => exact .read written

theorem Adopted.sense (adopted : Adopted writes old first new) :
    ∀ given, first = some given → ∃ value, writes given value := by
  rintro given rfl
  cases adopted with
  | read written => exact ⟨new, written⟩

end Setting

end Overrides

namespace HarnessConfig

open Overrides

variable {config : HarnessConfig} {lookup : Lookup} {given : String}

theorem overrideDelay_adopted {delay : UInt64}
    (adopted : Adopted WritesDelay config.interCallDelayMs (lookup delayName) delay) :
    config.overrideDelay lookup = .ok { config with interCallDelayMs := delay } := by
  unfold overrideDelay
  generalize lookup delayName = found at adopted
  cases adopted with
  | kept => rfl
  | read written => simp only [Decimal.readUInt64?_eq_some_iff.mpr written]

theorem overrideDelay_senseless (found : lookup delayName = some given)
    (senseless : ∀ delay, ¬WritesDelay given delay) :
    config.overrideDelay lookup = .error (.invalid (.notADelay given)) := by
  unfold overrideDelay
  cases read : Decimal.readUInt64? given with
  | none => simp only [found, read]
  | some delay => exact absurd (Decimal.readUInt64?_eq_some_iff.mp read) (senseless delay)

theorem overrideInsecure_adopted {flag : Bool}
    (adopted : Adopted WritesFlag config.insecureSkipVerify (lookup insecureName) flag) :
    config.overrideInsecure lookup = .ok { config with insecureSkipVerify := flag } := by
  unfold overrideInsecure
  generalize lookup insecureName = found at adopted
  cases adopted with
  | kept => rfl
  | read written => simp only [readFlag?_eq_some_iff.mpr written]

theorem overrideInsecure_senseless (found : lookup insecureName = some given)
    (senseless : ∀ flag, ¬WritesFlag given flag) :
    config.overrideInsecure lookup = .error (.invalid (.notAFlag given)) := by
  unfold overrideInsecure
  cases read : readFlag? given with
  | none => simp only [found, read]
  | some flag => exact absurd (readFlag?_eq_some_iff.mp read) (senseless flag)

/-- The courses that overrides can take, each with the configuration that it leaves and its verdict. -/
inductive Course (config : HarnessConfig) (lookup : Lookup) : Overridden → Prop
  | delayRefused {given : String} (found : lookup delayName = some given)
      (senseless : ∀ delay, ¬WritesDelay given delay) :
      Course config lookup ⟨config.overrideNames lookup, .error (.invalid (.notADelay given))⟩
  | flagRefused {delay : UInt64} {given : String}
      (delays : Adopted WritesDelay config.interCallDelayMs (lookup delayName) delay)
      (found : lookup insecureName = some given) (senseless : ∀ flag, ¬WritesFlag given flag) :
      Course config lookup
        ⟨{ config.overrideNames lookup with interCallDelayMs := delay }, .error (.invalid (.notAFlag given))⟩
  | accepted {delay : UInt64} {flag : Bool}
      (delays : Adopted WritesDelay config.interCallDelayMs (lookup delayName) delay)
      (flags : Adopted WritesFlag config.insecureSkipVerify (lookup insecureName) flag) :
      Course config lookup
        ⟨{ config.overrideNames lookup with interCallDelayMs := delay, insecureSkipVerify := flag }, .ok ()⟩

theorem applyOverrides_of_course {left : Overridden} (course : Course config lookup left) :
    config.applyOverrides lookup = left := by
  cases course with
  | delayRefused found senseless => simp only [applyOverrides, overrideDelay_senseless found senseless]
  | @flagRefused delay _ delays found senseless =>
      have delayed : (config.overrideNames lookup).overrideDelay lookup =
          .ok { config.overrideNames lookup with interCallDelayMs := delay } := overrideDelay_adopted delays
      simp only [applyOverrides, delayed, overrideInsecure_senseless found senseless]
  | @accepted delay flag delays flags =>
      have delayed : (config.overrideNames lookup).overrideDelay lookup =
          .ok { config.overrideNames lookup with interCallDelayMs := delay } := overrideDelay_adopted delays
      have flagged : overrideInsecure { config.overrideNames lookup with interCallDelayMs := delay } lookup =
          .ok { config.overrideNames lookup with interCallDelayMs := delay, insecureSkipVerify := flag } :=
        overrideInsecure_adopted flags
      simp only [applyOverrides, delayed, flagged]

theorem applyOverrides_course (config : HarnessConfig) (lookup : Lookup) :
    Course config lookup (config.applyOverrides lookup) := by
  obtain ⟨left, course⟩ : ∃ left, Course config lookup left := by
    obtain ⟨delay, delays⟩ | ⟨given, found, senseless⟩ :=
      adopted_or_senseless WritesDelay config.interCallDelayMs (lookup delayName)
    · obtain ⟨flag, flags⟩ | ⟨given, found, senseless⟩ :=
        adopted_or_senseless WritesFlag config.insecureSkipVerify (lookup insecureName)
      · exact ⟨_, .accepted delays flags⟩
      · exact ⟨_, .flagRefused delays found senseless⟩
    · exact ⟨_, .delayRefused found senseless⟩
  rwa [applyOverrides_of_course course]

theorem applyOverrides_config (config : HarnessConfig) (lookup : Lookup) :
    ∃ delay flag, (config.applyOverrides lookup).config =
      { config.overrideNames lookup with interCallDelayMs := delay, insecureSkipVerify := flag } := by
  have course := config.applyOverrides_course lookup
  generalize config.applyOverrides lookup = left at course
  cases course with
  | delayRefused => exact ⟨config.interCallDelayMs, config.insecureSkipVerify, rfl⟩
  | flagRefused => exact ⟨_, config.insecureSkipVerify, rfl⟩
  | accepted => exact ⟨_, _, rfl⟩

/-- No override reaches the scheme, the credentials or the services. -/
theorem applyOverrides_kept (config : HarnessConfig) (lookup : Lookup) :
    (config.applyOverrides lookup).config.scheme = config.scheme ∧
      (config.applyOverrides lookup).config.credentials = config.credentials ∧
      (config.applyOverrides lookup).config.services = config.services := by
  obtain ⟨delay, flag, after⟩ := config.applyOverrides_config lookup
  rw [after]
  exact ⟨rfl, rfl, rfl⟩

end HarnessConfig

end ScanCheck
