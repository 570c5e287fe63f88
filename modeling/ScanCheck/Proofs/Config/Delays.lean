import ScanCheck.Proofs.Config.Settlement
import ScanCheck.Proofs.Harness.Sessions

namespace ScanCheck

/-- A text for one setting, and none for the others. -/
def Lookup.only (name given : String) : Lookup := fun other => if other = name then some given else none

namespace Overrides

theorem exists_writesDelay_iff {given : String} :
    (∃ delay, WritesDelay given delay) ↔
      ∃ number ≤ 18446744073709551615, Decimal.Numeral given.toList number := by
  constructor
  · rintro ⟨delay, written⟩
    have bound := delay.toNat_lt
    exact ⟨delay.toNat, by omega, written⟩
  · rintro ⟨number, fits, numeral⟩
    refine ⟨.ofNat number, ?_⟩
    rwa [WritesDelay, UInt64.toNat_ofNat', Nat.mod_eq_of_lt (by omega)]

end Overrides

namespace HarnessConfig

open Overrides

variable (config : HarnessConfig) {given : String}

theorem applyOverrides_delay {delay : UInt64} (written : WritesDelay given delay) :
    config.applyOverrides (.only "SCAN_HARNESS_DELAY_MS" given) =
      ⟨{ config with interCallDelayMs := delay }, .ok ()⟩ :=
  applyOverrides_of_course (.accepted (.read written) .kept)

theorem applyOverrides_noDelay (senseless : ∀ delay, ¬WritesDelay given delay) :
    config.applyOverrides (.only "SCAN_HARNESS_DELAY_MS" given) =
      ⟨config, .error (.invalid (.notADelay given))⟩ :=
  applyOverrides_of_course (.delayRefused rfl senseless)

theorem applyOverrides_given (given : String) :
    (∃ delay, WritesDelay given delay ∧ config.applyOverrides (.only "SCAN_HARNESS_DELAY_MS" given) =
        ⟨{ config with interCallDelayMs := delay }, .ok ()⟩) ∨
      (∀ delay, ¬WritesDelay given delay) ∧ config.applyOverrides (.only "SCAN_HARNESS_DELAY_MS" given) =
        ⟨config, .error (.invalid (.notADelay given))⟩ := by
  by_cases sense : ∃ delay, WritesDelay given delay
  · obtain ⟨delay, written⟩ := sense
    exact .inl ⟨delay, written, config.applyOverrides_delay written⟩
  · exact .inr ⟨not_exists.mp sense, config.applyOverrides_noDelay (not_exists.mp sense)⟩

/-- Two texts that stand for the same delays leave the same configuration. -/
theorem applyOverrides_delay_congr {given other : String}
    (same : ∀ delay, WritesDelay given delay ↔ WritesDelay other delay) :
    (config.applyOverrides (.only "SCAN_HARNESS_DELAY_MS" given)).config =
      (config.applyOverrides (.only "SCAN_HARNESS_DELAY_MS" other)).config := by
  obtain ⟨delay, written, taken⟩ | ⟨senseless, refused⟩ := config.applyOverrides_given given
  · rw [taken, config.applyOverrides_delay ((same delay).mp written)]
  · rw [refused, config.applyOverrides_noDelay fun delay written => senseless delay ((same delay).mpr written)]

/-- What a text for the delay comes to, and the pauses of a harness of the configuration. -/
structure Delays (config : HarnessConfig) (given : String) (left : Overridden) : Prop where
  accepted_iff : ∀ number, left.verdict = .ok () ∧ left.config.interCallDelayMs.toNat = number ↔
    Decimal.Numeral given.toList number ∧ number ≤ 18446744073709551615
  refused : (¬∃ number ≤ 18446744073709551615, Decimal.Numeral given.toList number) →
    left.config = config ∧ ∃ error, left.verdict = .error error ∧ error.message =
      "invalid configuration: SCAN_HARNESS_DELAY_MS: not a number of milliseconds: " ++ Text.quoted given
  /-- No digits, a character that is neither a digit nor a sign, or a number that is too large. -/
  senseless : given = "" ∨ given = "+" ∨ (∃ char ∈ given.toList, char.isDigit = false ∧ char ≠ '+') ∨
      (∃ number > 18446744073709551615, Decimal.Numeral given.toList number) →
    left.config = config ∧ left.verdict ≠ .ok ()
  /-- Zeros in front of the digits change nothing, however many they are. -/
  zeros : ∀ count, given ≠ "" → (∀ char ∈ given.toList, char.isDigit) →
    (config.applyOverrides (.only "SCAN_HARNESS_DELAY_MS"
      (String.ofList (List.replicate count '0' ++ given.toList)))).config = left.config
  pauses : ∀ {σ π : Type} (transport : Transport σ) (suite : String) (label : π → String) (build : Builder σ π)
      (cases : List π) (state : σ),
    let trace := ((Harness.ofConfig left.config transport).runSuite suite label build cases state).trace
    let number := left.config.interCallDelayMs.toNat
    trace = (sent trace).flatMap fun request =>
      .send request :: if number = 0 then [] else [.pause ⟨number * 1000000⟩]

end HarnessConfig

theorem pauses_ofMilliseconds (count : UInt64) :
    pauses (.ofMilliseconds count) = if count.toNat = 0 then [] else [.pause ⟨count.toNat * 1000000⟩] := by
  rw [pauses, Duration.ofMilliseconds, Duration.zero]
  simp

namespace HarnessConfig

open Overrides

/-- A text for the delay is accepted exactly if it is a numeral of 64 bits, and then for the number that it is a
numeral of; any other text is refused and leaves the delay alone. A suite pauses behind every request for as many
milliseconds as the delay says, and not at all if it says none. -/
theorem delay_settles (config : HarnessConfig) (given : String) :
    Delays config given (config.applyOverrides (.only "SCAN_HARNESS_DELAY_MS" given)) := by
  have refused (none : ¬∃ number ≤ 18446744073709551615, Decimal.Numeral given.toList number) :
      config.applyOverrides (.only "SCAN_HARNESS_DELAY_MS" given) =
        ⟨config, .error (.invalid (.notADelay given))⟩ :=
    config.applyOverrides_noDelay (not_exists.mp (mt exists_writesDelay_iff.mp none))
  refine { accepted_iff := ?accepted_iff, refused := ?refused, senseless := ?senseless, zeros := ?zeros,
           pauses := ?pauses }
  case accepted_iff =>
    intro number
    obtain ⟨delay, written, taken⟩ | ⟨senseless, refused⟩ := config.applyOverrides_given given
    · have bound : delay.toNat ≤ 18446744073709551615 := Nat.le_of_lt_succ delay.toNat_lt
      rw [taken]
      constructor
      · rintro ⟨-, rfl⟩
        exact ⟨written, bound⟩
      · rintro ⟨numeral, -⟩
        exact ⟨rfl, Decimal.Numeral.unique written numeral⟩
    · rw [refused]
      constructor
      · rintro ⟨accepted, -⟩
        cases accepted
      · rintro ⟨numeral, fits⟩
        obtain ⟨delay, written⟩ := exists_writesDelay_iff.mpr ⟨number, fits, numeral⟩
        exact absurd written (senseless delay)
  case refused =>
    intro none
    rw [refused none]
    exact ⟨rfl, _, rfl, notADelay_message given⟩
  case senseless =>
    intro odd
    have none : ¬∃ number ≤ 18446744073709551615, Decimal.Numeral given.toList number := by
      rintro ⟨number, fits, numeral⟩
      obtain ⟨digits, sign, visible⟩ := numeral.visible
      rcases odd with rfl | rfl | ⟨char, member, other, unsigned⟩ | ⟨large, above, written⟩
      · exact digits rfl
      · exact sign rfl
      · rcases visible char member with digit | plus
        · rw [other] at digit
          cases digit
        · exact unsigned plus
      · have same := numeral.unique written
        omega
    rw [refused none]
    exact ⟨rfl, nofun⟩
  case zeros =>
    intro count some decimal
    have digits : given.toList ≠ [] := fun none => some (String.toList_eq_nil_iff.mp none)
    refine config.applyOverrides_delay_congr fun delay => ?_
    rw [WritesDelay, WritesDelay, String.toList_ofList, Decimal.numeral_zeros_iff count digits decimal]
  case pauses =>
    intro σ π transport suite label build cases state trace number
    have paced := (Harness.ofConfig (config.applyOverrides (.only "SCAN_HARNESS_DELAY_MS" given)).config
      transport).runSuite_trace build suite label cases state
    rw [← pauses_ofMilliseconds]
    exact paced

end HarnessConfig

end ScanCheck
