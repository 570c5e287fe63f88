import Mathlib.Data.String.Basic
import ScanCheck.Proofs.Text.Utf8

namespace ScanCheck.Utf8

/-- How a character is written, by the number of its bytes. -/
inductive Written (value : Nat) : Bytes → Prop
  | one (bound : value < 0x80) : Written value [UInt8.ofNat value]
  | two (least : 0x80 ≤ value) (bound : value < 0x800) :
      Written value [UInt8.ofNat (value / 64 % 0x20 + 0xc0), UInt8.ofNat (value % 0x40 + 0x80)]
  | three (least : 0x800 ≤ value) (bound : value < 0x10000) :
      Written value [UInt8.ofNat (value / 4096 % 0x10 + 0xe0), UInt8.ofNat (value / 64 % 0x40 + 0x80),
        UInt8.ofNat (value % 0x40 + 0x80)]
  | four (least : 0x10000 ≤ value) (bound : value < 0x110000) :
      Written value [UInt8.ofNat (value / 262144 % 0x08 + 0xf0), UInt8.ofNat (value / 4096 % 0x40 + 0x80),
        UInt8.ofNat (value / 64 % 0x40 + 0x80), UInt8.ofNat (value % 0x40 + 0x80)]

theorem written_encodeChar (char : Char) : Written char.toNat (String.utf8EncodeChar char) := by
  have scalar : char.toNat < 0xD800 ∨ 0xDFFF < char.toNat ∧ char.toNat < 0x110000 := char.valid
  unfold String.utf8EncodeChar
  change Written char.toNat (if char.toNat ≤ 0x7f then _ else if char.toNat ≤ 0x7ff then _ else
    if char.toNat ≤ 0xffff then _ else _)
  by_cases one : char.toNat ≤ 0x7f
  · rw [if_pos one]
    exact .one (by omega)
  · rw [if_neg one]
    by_cases two : char.toNat ≤ 0x7ff
    · rw [if_pos two]
      exact .two (by omega) (by omega)
    · rw [if_neg two]
      by_cases three : char.toNat ≤ 0xffff
      · rw [if_pos three]
        exact .three (by omega) (by omega)
      · rw [if_neg three]
        exact .four (by omega) (by omega)

theorem cons_lt_cons {first second : Nat} (small : first < 256) (smaller : second < 256) {front back : Bytes} :
    UInt8.ofNat first :: front < UInt8.ofNat second :: back ↔ first < second ∨ first = second ∧ front < back := by
  rw [List.cons_lt_cons_iff, UInt8.lt_iff_toNat_lt, ← UInt8.toNat_inj, byte_toNat small, byte_toNat smaller]

theorem lt_of_digits {first second : Nat} (bound : first < 0x110000) (limit : second < 0x110000)
    (below : first < second) :
    first / 262144 % 0x08 < second / 262144 % 0x08 ∨ first / 262144 % 0x08 = second / 262144 % 0x08 ∧
      (first / 4096 % 0x40 < second / 4096 % 0x40 ∨ first / 4096 % 0x40 = second / 4096 % 0x40 ∧
        (first / 64 % 0x40 < second / 64 % 0x40 ∨ first / 64 % 0x40 = second / 64 % 0x40 ∧
          first % 0x40 < second % 0x40)) := by
  have places (value : Nat) (bound : value < 0x110000) : value = value / 262144 % 0x08 * 262144 +
      value / 4096 % 0x40 * 4096 + value / 64 % 0x40 * 64 + value % 0x40 := by omega
  have lesser := places first bound
  have greater := places second limit
  have second1 : second / 4096 % 0x40 < 0x40 := Nat.mod_lt _ (by decide)
  have second2 : second / 64 % 0x40 < 0x40 := Nat.mod_lt _ (by decide)
  have second3 : second % 0x40 < 0x40 := Nat.mod_lt _ (by decide)
  -- Once the digits are numbers of their own, nothing is left but to compare two sums.
  generalize first / 262144 % 0x08 = a, first / 4096 % 0x40 = b, first / 64 % 0x40 = c, first % 0x40 = d at *
  generalize second / 262144 % 0x08 = e, second / 4096 % 0x40 = f, second / 64 % 0x40 = g, second % 0x40 = h at *
  omega

theorem Written.lt {first second : Nat} {front back : Bytes} (lesser : Written first front)
    (greater : Written second back) (below : first < second) (left right : Bytes) :
    front ++ left < back ++ right := by
  -- Of two characters of different length the lead bytes tell; otherwise all bytes do, one after the other.
  cases lesser <;> cases greater <;>
    simp (disch := omega) only [List.cons_append, List.nil_append, cons_lt_cons]
  case four.four limit _ bound =>
    have digits := lt_of_digits limit bound below
    omega
  all_goals omega

theorem Written.nil_lt {value : Nat} {bytes : Bytes} (written : Written value bytes) (rest : Bytes) :
    [] < bytes ++ rest := by
  cases written <;> exact List.nil_lt_cons _ _

theorem encodeChar_lt {first second : Char} (below : first < second) (left right : Bytes) :
    String.utf8EncodeChar first ++ left < String.utf8EncodeChar second ++ right :=
  (written_encodeChar first).lt (written_encodeChar second) below left right

theorem append_lt_append {front left right : Bytes} (below : left < right) : front ++ left < front ++ right := by
  induction front with
  | nil => exact below
  | cons byte front ih => exact List.cons_lt_cons_iff.mpr (.inr ⟨rfl, ih⟩)

theorem encode_lt {first second : List Char} (below : first < second) : encode first < encode second := by
  -- The induction is on the lesser text, which is the front of the greater one or differs from it at some place.
  induction first generalizing second with
  | nil =>
      cases second with
      | nil => exact absurd below (List.lt_irrefl [])
      | cons char second =>
          rw [encode_cons]
          exact (written_encodeChar char).nil_lt _
  | cons char first ih =>
      cases second with
      | nil => exact absurd below (List.not_lt_nil _)
      | cons other second =>
          rw [encode_cons, encode_cons]
          rcases List.cons_lt_cons_iff.mp below with lesser | ⟨same, later⟩
          · exact encodeChar_lt lesser _ _
          · subst same
            exact append_lt_append (ih later)

end ScanCheck.Utf8

namespace ScanCheck

/-- Texts are in the order of their bytes. -/
theorem utf8_lt_iff {first second : String} : utf8 first < utf8 second ↔ first < second := by
  constructor
  · intro below
    rcases lt_trichotomy first second with lesser | same | greater
    · exact lesser
    · subst same
      exact absurd below (List.lt_irrefl _)
    · exact absurd below (List.lt_asymm (Utf8.encode_lt (String.lt_iff.mp greater)))
  · intro below
    exact Utf8.encode_lt (String.lt_iff.mp below)

end ScanCheck
