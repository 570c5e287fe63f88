import Mathlib.Data.List.Induction
import Mathlib.Data.Nat.Digits.Defs
import ScanCheck.Decimal.Natural

namespace ScanCheck.Decimal

/-- The value of a row of digits, where the last one counts ones, that before it tens, and so on. -/
def placeValue (row : List Char) : Nat := Nat.ofDigits 10 (row.reverse.map fun digit => digit.toNat - '0'.toNat)

/-- One or more decimal digits, with or without a plus sign in front. -/
def Numeral (text : List Char) (number : Nat) : Prop :=
  ∃ row, (text = row ∨ text = '+' :: row) ∧ row ≠ [] ∧ (∀ digit ∈ row, digit.isDigit) ∧ placeValue row = number

theorem placeValue_concat (row : List Char) (digit : Char) :
    placeValue (row ++ [digit]) = placeValue row * 10 + (digit.toNat - '0'.toNat) := by
  simp only [placeValue, List.reverse_append, List.reverse_cons, List.reverse_nil, List.nil_append,
    List.cons_append, List.map_cons, Nat.ofDigits_cons]
  rw [Nat.add_comm, Nat.mul_comm]

theorem value_eq_placeValue (row : List Char) : value row = placeValue row := by
  induction row using List.reverseRecOn with
  | nil => rfl
  | append_singleton row digit ih =>
      rw [placeValue_concat, ← ih, value, value, List.foldl_append]
      rfl

/-- Zeros in front of a row change its value as little as they do in writing. -/
theorem placeValue_zeros (count : Nat) (row : List Char) :
    placeValue (List.replicate count '0' ++ row) = placeValue row := by
  simp only [placeValue, List.reverse_append, List.reverse_replicate, List.map_append, List.map_replicate]
  exact Nat.ofDigits_append_replicate_zero _

theorem isDigit_digits (number : Nat) : ∀ digit ∈ digits number, digit.isDigit :=
  fun _ => Nat.isDigit_of_mem_toDigits (by decide) (by decide)

/-- The first of the digits of a number is a zero only if the number is. -/
theorem digits_cons {number : Nat} (positive : 0 < number) :
    ∃ digit row, digits number = digit :: row ∧ digit ≠ '0' := by
  induction number using Nat.strongRecOn with
  | _ number ih =>
      unfold digits at *
      by_cases small : number < 10
      · refine ⟨_, _, Nat.toDigits_of_lt_base small, fun zero => ?_⟩
        have none := Nat.digitChar_eq_zero.mp zero
        omega
      · obtain ⟨digit, row, front, leads⟩ := ih (number / 10) (by omega) (by omega)
        refine ⟨digit, row ++ [(number % 10).digitChar], ?_, leads⟩
        rw [Nat.toDigits_of_base_le (by decide) (by omega), front, List.cons_append]

theorem placeValue_digits (number : Nat) : placeValue (digits number) = number := by
  have place : placeValue (digits number) = Nat.ofDigitChars 10 (digits number) 0 := by
    simp only [← value_eq_placeValue, value, Nat.ofDigitChars_eq_foldl, Nat.mul_comm]
  rw [place]
  exact Nat.ofDigitChars_ten_toDigits

theorem isDigit_eq (char : Char) : isDigit char = char.isDigit := by
  rw [Bool.eq_iff_iff, Char.isDigit_iff_toNat, isDigit, Bool.and_eq_true, decide_eq_true_eq, decide_eq_true_eq]
  rfl

theorem dropPlus_of_digits {row : List Char} (decimal : ∀ digit ∈ row, digit.isDigit) : dropPlus row = row := by
  unfold dropPlus
  split
  · exact absurd (decimal '+' List.mem_cons_self) (by decide)
  · rfl

theorem dropPlus_cases (text : List Char) : text = dropPlus text ∨ text = '+' :: dropPlus text := by
  unfold dropPlus
  split
  · exact .inr rfl
  · exact .inl rfl

theorem numeral_iff {text : List Char} {number : Nat} :
    Numeral text number ↔
      dropPlus text ≠ [] ∧ (∀ digit ∈ dropPlus text, digit.isDigit) ∧ value (dropPlus text) = number := by
  constructor
  · rintro ⟨row, written, digits, decimal, same⟩
    have row : dropPlus text = row := by
      rcases written with rfl | rfl
      · exact dropPlus_of_digits decimal
      · rfl
    rw [row, value_eq_placeValue]
    exact ⟨digits, decimal, same⟩
  · rintro ⟨digits, decimal, same⟩
    rw [value_eq_placeValue] at same
    exact ⟨dropPlus text, dropPlus_cases text, digits, decimal, same⟩

theorem Numeral.unique {text : List Char} {number other : Nat} (first : Numeral text number)
    (second : Numeral text other) : number = other :=
  (numeral_iff.mp first).2.2.symm.trans (numeral_iff.mp second).2.2

theorem Numeral.visible {text : List Char} {number : Nat} (numeral : Numeral text number) :
    text ≠ [] ∧ text ≠ ['+'] ∧ ∀ char ∈ text, char.isDigit ∨ char = '+' := by
  obtain ⟨row, written, digits, decimal, -⟩ := numeral
  rcases written with rfl | rfl
  · refine ⟨digits, ?_, fun char member => .inl (decimal char member)⟩
    rintro rfl
    exact absurd (decimal '+' List.mem_cons_self) (by decide)
  · refine ⟨List.cons_ne_nil _ _, fun lone => digits (List.cons.inj lone).2, fun char member => ?_⟩
    rcases List.mem_cons.mp member with sign | member
    · exact .inr sign
    · exact .inl (decimal char member)

theorem numeral_digits_iff {row : List Char} {number : Nat} (digits : row ≠ [])
    (decimal : ∀ digit ∈ row, digit.isDigit) : Numeral row number ↔ placeValue row = number := by
  rw [numeral_iff, dropPlus_of_digits decimal, value_eq_placeValue]
  exact ⟨fun numeral => numeral.2.2, fun same => ⟨digits, decimal, same⟩⟩

theorem numeral_zeros_iff {row : List Char} {number : Nat} (count : Nat) (digits : row ≠ [])
    (decimal : ∀ digit ∈ row, digit.isDigit) :
    Numeral (List.replicate count '0' ++ row) number ↔ Numeral row number := by
  rw [numeral_digits_iff digits decimal, ← placeValue_zeros count, numeral_digits_iff]
  · exact fun none => digits (List.append_eq_nil_iff.mp none).2
  · intro digit member
    rcases List.mem_append.mp member with zero | member
    · rw [List.eq_of_mem_replicate zero]
      rfl
    · exact decimal digit member

theorem readUpTo_eq_some_iff {limit number : Nat} {text : List Char} :
    readUpTo limit text = some number ↔ Numeral text number ∧ number ≤ limit := by
  have digital : (dropPlus text).all isDigit = true ↔ ∀ digit ∈ dropPlus text, digit.isDigit := by
    simp only [List.all_eq_true, isDigit_eq]
  rw [numeral_iff, readUpTo]
  simp only [digital]
  constructor
  · intro read
    split at read
    · rename_i fits
      cases read
      exact ⟨⟨fits.1, fits.2.1, rfl⟩, fits.2.2⟩
    · cases read
  · rintro ⟨⟨digits, decimal, rfl⟩, fits⟩
    rw [if_pos ⟨digits, decimal, fits⟩]

/-- A text is read as a number of 64 bits exactly if it is a numeral of that very number. -/
theorem readUInt64?_eq_some_iff {text : String} {number : UInt64} :
    readUInt64? text = some number ↔ Numeral text.toList number.toNat := by
  have bound := number.toNat_lt
  rw [readUInt64?, Option.map_eq_some_iff]
  constructor
  · rintro ⟨natural, read, rfl⟩
    obtain ⟨numeral, fits⟩ := readUpTo_eq_some_iff.mp read
    rwa [UInt64.toNat_ofNat', Nat.mod_eq_of_lt (by omega)]
  · intro numeral
    exact ⟨number.toNat, readUpTo_eq_some_iff.mpr ⟨numeral, by omega⟩, UInt64.ofNat_toNat⟩

end ScanCheck.Decimal
