import ScanCheck.Proofs.Decimal.Numerals
import ScanCheck.Proofs.Json.Collections

namespace ScanCheck.Json

def digitValues (row : List Char) : List Nat := row.map fun digit => digit.toNat - 48

theorem encodeChar_digit {digit : Char} (decimal : digit.isDigit) :
    ∃ byte, String.utf8EncodeChar digit = [byte] ∧ byte.toNat = digit.toNat ∧ isDigit byte := by
  obtain ⟨low, high⟩ : 48 ≤ digit.toNat ∧ digit.toNat ≤ 57 := Char.isDigit_iff_toNat.mp decimal
  have code := Utf8.byte_toNat (show digit.toNat < 256 by omega)
  refine ⟨_, Utf8.encodeChar_ascii (by omega), code, ?_⟩
  simp only [isDigit, Bool.and_eq_true, decide_eq_true_eq, UInt8.le_iff_toNat_le, code]
  exact ⟨low, high⟩

theorem isDigit_visible {byte : UInt8} (digital : isDigit byte) :
    isBlank byte = false ∧ byte ≠ 93 ∧ byte ≠ 45 := by
  simp only [isDigit, Bool.and_eq_true, decide_eq_true_eq] at digital
  have apart (other : UInt8) (below : other < 48 ∨ 57 < other) : byte ≠ other := by
    rintro rfl
    exact below.elim (UInt8.not_lt.mpr digital.1) (UInt8.not_lt.mpr digital.2)
  refine ⟨?_, apart 93 (by decide), apart 45 (by decide)⟩
  simp only [isBlank, Bool.or_eq_false_iff, beq_eq_false_iff_ne]
  exact ⟨⟨⟨apart 32 (by decide), apart 9 (by decide)⟩, apart 10 (by decide)⟩, apart 13 (by decide)⟩

theorem isDigit_encode {row : List Char} (decimal : ∀ digit ∈ row, digit.isDigit) :
    ∀ byte ∈ Utf8.encode row, isDigit byte := by
  intro byte member
  obtain ⟨digit, inside, written⟩ := List.mem_flatMap.mp member
  obtain ⟨code, encoded, -, digital⟩ := encodeChar_digit (decimal digit inside)
  rw [encoded] at written
  exact List.mem_singleton.mp written ▸ digital

def rowDigits (row : Bytes) : List Nat := row.map fun byte => byte.toNat - 48

theorem rowDigits_encode {row : List Char} (decimal : ∀ digit ∈ row, digit.isDigit) :
    rowDigits (Utf8.encode row) = digitValues row := by
  induction row with
  | nil => rfl
  | cons digit row ih =>
      obtain ⟨byte, encoded, code, -⟩ := encodeChar_digit (decimal digit List.mem_cons_self)
      have others := ih fun other member => decimal other (List.mem_cons_of_mem _ member)
      rw [rowDigits] at others
      rw [rowDigits, Utf8.encode_cons, encoded, List.map_append, others]
      simp only [digitValues, List.map_cons, List.map_nil, code, List.singleton_append]

section Row

variable {row rest : Bytes} (digits : ∀ byte ∈ row, isDigit byte = true)
  (ends : ∀ byte ∈ rest.head?, isDigit byte = false)

include digits ends

theorem leadingDigits_append : leadingDigits (row ++ rest) = rowDigits row := by
  have stop : rest.takeWhile isDigit = [] := by
    cases rest with
    | nil => rfl
    | cons byte rest => exact List.takeWhile_cons_of_neg (by simp [ends byte rfl])
  rw [leadingDigits, List.takeWhile_append_of_pos digits, stop, List.append_nil, rowDigits]

theorem afterDigits_append : afterDigits (row ++ rest) = rest := by
  rw [afterDigits, List.dropWhile_append_of_pos digits]
  cases rest with
  | nil => rfl
  | cons byte rest => exact List.dropWhile_cons_of_neg (by simp [ends byte rfl])

end Row

/-- A row of digits whose value fits is taken as a whole: the value of no shorter row is larger. -/
theorem accumulate_digitValues {row : List Char} {significand : Nat}
    (fits : Nat.ofDigitChars 10 row significand < 0x10000000000000000) :
    accumulate significand (digitValues row) = (Nat.ofDigitChars 10 row significand, 0) := by
  induction row generalizing significand with
  | nil => rfl
  | cons digit row ih =>
      rw [Nat.ofDigitChars_cons, Nat.mul_comm] at fits ⊢
      have below : significand * 10 + (digit.toNat - 48) < 0x10000000000000000 := by
        have power : 0 < 10 ^ row.length := Nat.pow_pos (by decide)
        have grows := Nat.le_mul_of_pos_left (significand * 10 + (digit.toNat - '0'.toNat)) power
        rw [Nat.ofDigitChars_eq_ofDigitChars_zero] at fits
        exact Nat.lt_of_le_of_lt (Nat.le_trans grows (Nat.le_add_right _ _)) fits
      rw [digitValues, List.map_cons, accumulate, if_pos below]
      exact ih fits

theorem encode_digits (number : Nat) : ∃ byte tail, Utf8.encode (Decimal.digits number) = byte :: tail ∧
    isDigit byte ∧ (byte = 48 → number = 0 ∧ tail = []) := by
  rcases Nat.eq_zero_or_pos number with rfl | positive
  · exact ⟨48, [], rfl, rfl, fun _ => ⟨rfl, rfl⟩⟩
  · obtain ⟨digit, row, digits, leads⟩ := Decimal.digits_cons positive
    have decimal := Decimal.isDigit_digits number digit (digits ▸ List.mem_cons_self)
    obtain ⟨byte, encoded, code, digital⟩ := encodeChar_digit decimal
    refine ⟨byte, Utf8.encode row, by rw [digits, Utf8.encode_cons, encoded]; rfl, digital, fun zero => ?_⟩
    have same : digit.toNat = 48 := by rw [← code, zero]; rfl
    exact absurd (Char.toNat_inj.mp same) leads

end ScanCheck.Json
