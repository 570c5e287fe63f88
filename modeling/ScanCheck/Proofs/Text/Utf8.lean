import ScanCheck.Text.Utf8

namespace ScanCheck.Utf8

theorem byte_toNat {value : Nat} (bound : value < 256) : (UInt8.ofNat value).toNat = value := by
  rw [UInt8.toNat_ofNat', Nat.mod_eq_of_lt bound]

theorem pieces_open {byte : UInt8} {rest : Bytes} {pending : Pending} (opens : lead byte = .opens pending) :
    pieces none (byte :: rest) = pieces (some pending) rest := by
  simp only [pieces, step, start, opens, List.nil_append]

theorem pieces_next {byte : UInt8} {rest : Bytes} {more low high value : Nat} (above : low ≤ byte.toNat)
    (below : byte.toNat ≤ high) :
    pieces (some ⟨more + 1, low, high, value⟩) (byte :: rest) =
      pieces (some ⟨more, 0x80, 0xBF, value * 64 + (byte.toNat - 0x80)⟩) rest := by
  simp only [pieces, step, if_pos (And.intro above below), List.nil_append]

theorem pieces_last {byte : UInt8} {rest : Bytes} {low high value : Nat} (above : low ≤ byte.toNat)
    (below : byte.toNat ≤ high) :
    pieces (some ⟨0, low, high, value⟩) (byte :: rest) =
      some (Char.ofNat (value * 64 + (byte.toNat - 0x80))) :: pieces none rest := by
  simp only [pieces, step, if_pos (And.intro above below), List.cons_append, List.nil_append]

theorem pieces_one {value : Nat} (bound : value < 0x80) (rest : Bytes) :
    pieces none (UInt8.ofNat value :: rest) = some (Char.ofNat value) :: pieces none rest := by
  have byte := byte_toNat (show value < 256 by omega)
  simp only [pieces, step, start, lead, byte, if_pos bound, List.cons_append, List.nil_append]

theorem pieces_two {value : Nat} (low : 0x80 ≤ value) (high : value < 0x800) (rest : Bytes) :
    pieces none (UInt8.ofNat (value / 64 % 0x20 + 0xc0) :: UInt8.ofNat (value % 0x40 + 0x80) :: rest) =
      some (Char.ofNat value) :: pieces none rest := by
  have first := byte_toNat (show value / 64 % 0x20 + 0xc0 < 256 by omega)
  have second := byte_toNat (show value % 0x40 + 0x80 < 256 by omega)
  have opens : lead (UInt8.ofNat (value / 64 % 0x20 + 0xc0)) = .opens ⟨0, 0x80, 0xBF, value / 64⟩ := by
    simp only [lead, first]
    rw [if_neg (by omega), if_neg (by omega), if_pos (by omega),
      show value / 64 % 0x20 + 0xc0 - 0xC0 = value / 64 by omega]
  rw [pieces_open opens, pieces_last (by omega) (by omega), second,
    show value / 64 * 64 + (value % 0x40 + 0x80 - 0x80) = value by omega]

theorem pieces_three {value : Nat} (low : 0x800 ≤ value) (high : value < 0x10000)
    (scalar : value < 0xD800 ∨ 0xDFFF < value) (rest : Bytes) :
    pieces none (UInt8.ofNat (value / 4096 % 0x10 + 0xe0) :: UInt8.ofNat (value / 64 % 0x40 + 0x80) ::
        UInt8.ofNat (value % 0x40 + 0x80) :: rest) =
      some (Char.ofNat value) :: pieces none rest := by
  have first := byte_toNat (show value / 4096 % 0x10 + 0xe0 < 256 by omega)
  have second := byte_toNat (show value / 64 % 0x40 + 0x80 < 256 by omega)
  have third := byte_toNat (show value % 0x40 + 0x80 < 256 by omega)
  obtain ⟨low, high, opens, above, below⟩ : ∃ low high,
      lead (UInt8.ofNat (value / 4096 % 0x10 + 0xe0)) = .opens ⟨1, low, high, value / 4096⟩ ∧
        low ≤ value / 64 % 0x40 + 0x80 ∧ value / 64 % 0x40 + 0x80 ≤ high := by
    simp only [lead, first]
    rw [if_neg (by omega), if_neg (by omega), if_neg (by omega)]
    by_cases least : value / 4096 = 0
    · rw [if_pos (by omega), least]
      exact ⟨0xA0, 0xBF, rfl, by omega, by omega⟩
    · rw [if_neg (by omega)]
      by_cases surrogates : value / 4096 = 0xD
      · rw [if_pos (by omega), surrogates]
        exact ⟨0x80, 0x9F, rfl, by omega, by omega⟩
      · rw [if_neg (by omega), if_pos (by omega),
          show value / 4096 % 0x10 + 0xe0 - 0xE0 = value / 4096 by omega]
        exact ⟨0x80, 0xBF, rfl, by omega, by omega⟩
  rw [pieces_open opens, pieces_next (by omega) (by omega), pieces_last (by omega) (by omega), second, third,
    show (value / 4096 * 64 + (value / 64 % 0x40 + 0x80 - 0x80)) * 64 + (value % 0x40 + 0x80 - 0x80) = value
      by omega]

theorem pieces_four {value : Nat} (low : 0x10000 ≤ value) (high : value < 0x110000) (rest : Bytes) :
    pieces none (UInt8.ofNat (value / 262144 % 0x08 + 0xf0) :: UInt8.ofNat (value / 4096 % 0x40 + 0x80) ::
        UInt8.ofNat (value / 64 % 0x40 + 0x80) :: UInt8.ofNat (value % 0x40 + 0x80) :: rest) =
      some (Char.ofNat value) :: pieces none rest := by
  have first := byte_toNat (show value / 262144 % 0x08 + 0xf0 < 256 by omega)
  have second := byte_toNat (show value / 4096 % 0x40 + 0x80 < 256 by omega)
  have third := byte_toNat (show value / 64 % 0x40 + 0x80 < 256 by omega)
  have fourth := byte_toNat (show value % 0x40 + 0x80 < 256 by omega)
  obtain ⟨low, high, opens, above, below⟩ : ∃ low high,
      lead (UInt8.ofNat (value / 262144 % 0x08 + 0xf0)) = .opens ⟨2, low, high, value / 262144⟩ ∧
        low ≤ value / 4096 % 0x40 + 0x80 ∧ value / 4096 % 0x40 + 0x80 ≤ high := by
    simp only [lead, first]
    rw [if_neg (by omega), if_neg (by omega), if_neg (by omega), if_neg (by omega), if_neg (by omega),
      if_neg (by omega)]
    by_cases least : value / 262144 = 0
    · rw [if_pos (by omega), least]
      exact ⟨0x90, 0xBF, rfl, by omega, by omega⟩
    · rw [if_neg (by omega)]
      by_cases greatest : value / 262144 = 4
      · rw [if_neg (by omega), if_pos (by omega), greatest]
        exact ⟨0x80, 0x8F, rfl, by omega, by omega⟩
      · rw [if_pos (by omega), show value / 262144 % 0x08 + 0xf0 - 0xF0 = value / 262144 by omega]
        exact ⟨0x80, 0xBF, rfl, by omega, by omega⟩
  rw [pieces_open opens, pieces_next (by omega) (by omega), pieces_next (by omega) (by omega),
    pieces_last (by omega) (by omega), second, third, fourth,
    show ((value / 262144 * 64 + (value / 4096 % 0x40 + 0x80 - 0x80)) * 64 +
      (value / 64 % 0x40 + 0x80 - 0x80)) * 64 + (value % 0x40 + 0x80 - 0x80) = value by omega]

/-- The automaton reads the bytes of a character as the character. The cases are those of the encoding, by
the number of bytes; that a character is no surrogate matters for three bytes only. -/
theorem pieces_encodeChar (char : Char) (rest : Bytes) :
    pieces none (String.utf8EncodeChar char ++ rest) = some char :: pieces none rest := by
  have scalar : char.val.toNat < 0xD800 ∨ 0xDFFF < char.val.toNat ∧ char.val.toNat < 0x110000 := char.valid
  have back : Char.ofNat char.val.toNat = char := Char.ofNat_toNat char
  unfold String.utf8EncodeChar
  simp only
  split
  · exact (pieces_one (by omega) rest).trans (by rw [back])
  · split
    · exact (pieces_two (by omega) (by omega) rest).trans (by rw [back])
    · split
      · exact (pieces_three (by omega) (by omega) (by omega) rest).trans (by rw [back])
      · exact (pieces_four (by omega) (by omega) rest).trans (by rw [back])

@[simp] theorem encode_nil : encode [] = [] := rfl

@[simp] theorem encode_cons (char : Char) (text : List Char) :
    encode (char :: text) = String.utf8EncodeChar char ++ encode text := List.flatMap_cons

@[simp] theorem encode_append (first second : List Char) :
    encode (first ++ second) = encode first ++ encode second := List.flatMap_append

theorem pieces_encode (text : List Char) (rest : Bytes) :
    pieces none (encode text ++ rest) = text.map some ++ pieces none rest := by
  induction text with
  | nil => rfl
  | cons char text ih =>
      rw [encode_cons, List.append_assoc, pieces_encodeChar, ih, List.map_cons, List.cons_append]

theorem pieces_encode_end (text : List Char) : pieces none (encode text) = text.map some := by
  simpa [pieces] using pieces_encode text []

theorem decode?_encode (text : List Char) : decode? (encode text) = some text := by
  rw [decode?, pieces_encode_end]
  induction text with
  | nil => rfl
  | cons char text ih => rw [List.map_cons, List.mapM_cons, ih]; rfl

theorem decodeLossy_encode (text : List Char) : decodeLossy (encode text) = text := by
  rw [decodeLossy, pieces_encode_end, List.map_map]
  exact List.map_id text

theorem encodeChar_ascii {char : Char} (ascii : char.toNat < 0x80) :
    String.utf8EncodeChar char = [UInt8.ofNat char.toNat] := by
  unfold String.utf8EncodeChar
  exact if_pos (show char.toNat ≤ 0x7f by omega)

theorem encodeChar_wide {char : Char} (wide : 0x80 ≤ char.toNat) :
    ∀ byte ∈ String.utf8EncodeChar char, 0x80 ≤ byte.toNat := by
  have high (value : Nat) (low : 0x80 ≤ value) (bound : value < 256) : 0x80 ≤ (UInt8.ofNat value).toNat :=
    (byte_toNat bound).symm ▸ low
  intro byte member
  unfold String.utf8EncodeChar at member
  simp only at member
  rw [if_neg (show ¬ char.val.toNat ≤ 0x7f from Nat.not_le.mpr wide)] at member
  split at member
  · simp only [List.mem_cons, List.not_mem_nil, or_false] at member
    rcases member with rfl | rfl <;> exact high _ (by omega) (by omega)
  · split at member <;> simp only [List.mem_cons, List.not_mem_nil, or_false] at member
    · rcases member with rfl | rfl | rfl <;> exact high _ (by omega) (by omega)
    · rcases member with rfl | rfl | rfl | rfl <;> exact high _ (by omega) (by omega)

end ScanCheck.Utf8

namespace ScanCheck

@[simp] theorem Bytes.text?_encode (text : List Char) :
    Bytes.text? (Utf8.encode text) = some (String.ofList text) := by
  rw [Bytes.text?, Utf8.decode?_encode, Option.map_some]

@[simp] theorem Bytes.text_utf8 (text : String) : (utf8 text).text = text := by
  rw [Bytes.text, utf8, Utf8.decodeLossy_encode, String.ofList_toList]

end ScanCheck
