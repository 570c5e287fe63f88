import ScanCheck.Json.Printer
import ScanCheck.Json.Token
import ScanCheck.Proofs.Text.Utf8

namespace ScanCheck.Json

theorem prependBytes_nil (contents : Except Fault (Bytes × Bytes)) : prependBytes [] contents = contents := by
  cases contents <;> rfl

theorem prependBytes_prependBytes (first second : Bytes) (contents : Except Fault (Bytes × Bytes)) :
    prependBytes first (prependBytes second contents) = prependBytes (first ++ second) contents := by
  cases contents with
  | error fault => rfl
  | ok read => simp [prependBytes]

/-- A byte that stands for itself in a string. -/
def IsPlain (byte : UInt8) : Prop := byte ≠ 34 ∧ byte ≠ 92 ∧ ¬ byte < 32

theorem stringContents_plain {bytes : Bytes} (plain : ∀ byte ∈ bytes, IsPlain byte) (rest : Bytes) :
    stringContents (bytes ++ rest) = prependBytes bytes (stringContents rest) := by
  induction bytes with
  | nil => exact (prependBytes_nil _).symm
  | cons byte bytes ih =>
      obtain ⟨quote, backslash, control⟩ := plain byte List.mem_cons_self
      have others := ih fun other member => plain other (List.mem_cons_of_mem _ member)
      rw [List.cons_append, stringContents.eq_def]
      simp only [if_neg quote, if_neg backslash, if_neg control, others, prependBytes_prependBytes,
        List.singleton_append]

theorem stringContents_short {letter : UInt8} (meant : UInt8) (short : shortEscape letter = some meant) (rest : Bytes) :
    stringContents (92 :: letter :: rest) = prependBytes [meant] (stringContents rest) := by
  have other : letter ≠ 117 := by
    rintro rfl
    cases short
  rw [stringContents.eq_def]
  simp [other, short]

theorem stringContents_control {high low : UInt8} {unit : Nat} (digits : hexUnit 48 48 high low = some unit)
    (control : unit < 0x20) (rest : Bytes) :
    stringContents (92 :: 117 :: 48 :: 48 :: high :: low :: rest) =
      prependBytes (Utf8.encode [Char.ofNat unit]) (stringContents rest) := by
  have notLow : isLowSurrogate unit = false := by simp [isLowSurrogate]; omega
  have notHigh : isHighSurrogate unit = false := by simp [isHighSurrogate]; omega
  rw [stringContents.eq_def]
  simp [digits, notLow, notHigh]

theorem hexUnit_digitChar : ∀ unit < 0x20,
    hexUnit 48 48 (UInt8.ofNat (Nat.digitChar (unit / 16)).toNat)
      (UInt8.ofNat (Nat.digitChar (unit % 16)).toNat) = some unit := by
  decide

theorem digitChar_ascii : ∀ digit < 16, (Nat.digitChar digit).toNat < 0x80 := by
  decide

theorem encode_controlEscape {char : Char} (control : char.toNat < 0x20) :
    Utf8.encode (controlEscape char) =
      [92, 117, 48, 48, UInt8.ofNat (Nat.digitChar (char.toNat / 16)).toNat,
        UInt8.ofNat (Nat.digitChar (char.toNat % 16)).toNat] := by
  have high := Utf8.encodeChar_ascii (digitChar_ascii (char.toNat / 16) (by omega))
  have low := Utf8.encodeChar_ascii (digitChar_ascii (char.toNat % 16) (by omega))
  simp only [controlEscape, Utf8.encode_cons, Utf8.encode_nil, high, low]
  rfl

theorem isPlain_encodeChar {char : Char} (quote : char ≠ '"') (backslash : char ≠ '\\')
    (visible : ¬ char.toNat < 0x20) : ∀ byte ∈ String.utf8EncodeChar char, IsPlain byte := by
  intro byte member
  have code : 0x20 ≤ byte.toNat ∧ byte.toNat ≠ 34 ∧ byte.toNat ≠ 92 := by
    by_cases ascii : char.toNat < 0x80
    · rw [Utf8.encodeChar_ascii ascii] at member
      have value : byte.toNat = char.toNat := by
        rw [List.mem_singleton.mp member, Utf8.byte_toNat (by omega)]
      refine ⟨by omega, fun same => quote ?_, fun same => backslash ?_⟩ <;>
        rw [← Char.ofNat_toNat char, ← value, same]
    · have wide := Utf8.encodeChar_wide (by omega) byte member
      omega
  refine ⟨fun same => code.2.1 (same ▸ rfl), fun same => code.2.2 (same ▸ rfl), fun control => ?_⟩
  have below : byte.toNat < 32 := UInt8.lt_iff_toNat_lt.mp control
  omega

/-- A character is read back from what it is written as. The cases are those of the writer. -/
theorem stringContents_quoteChar (char : Char) (rest : Bytes) :
    stringContents (Utf8.encode (quoteChar char) ++ rest) =
      prependBytes (String.utf8EncodeChar char) (stringContents rest) := by
  unfold quoteChar
  split
  · subst char; exact stringContents_short 34 rfl rest
  split
  · subst char; exact stringContents_short 92 rfl rest
  split
  · subst char; exact stringContents_short 10 rfl rest
  split
  · subst char; exact stringContents_short 13 rfl rest
  split
  · subst char; exact stringContents_short 9 rfl rest
  split
  · subst char; exact stringContents_short 8 rfl rest
  split
  · subst char; exact stringContents_short 12 rfl rest
  split
  · rename_i control
    have read := stringContents_control (hexUnit_digitChar char.toNat control) control rest
    rw [Char.ofNat_toNat, Utf8.encode_cons, Utf8.encode_nil, List.append_nil] at read
    rw [encode_controlEscape control]
    exact read
  · rename_i quote backslash _ _ _ _ _ visible
    simpa using stringContents_plain (isPlain_encodeChar quote backslash visible) rest

theorem stringContents_quoted (text : List Char) (rest : Bytes) :
    stringContents (Utf8.encode (text.flatMap quoteChar) ++ 34 :: rest) = .ok (Utf8.encode text, rest) := by
  induction text with
  | nil => rw [List.flatMap_nil, Utf8.encode_nil, List.nil_append, stringContents.eq_def]; rfl
  | cons char text ih =>
      rw [List.flatMap_cons, Utf8.encode_append, List.append_assoc, stringContents_quoteChar, ih,
        Utf8.encode_cons]
      rfl

/-- A string comes back from behind its opening quote, together with all that follows the closing one. -/
theorem stringTail_quoted (text : String) (rest : Bytes) :
    stringTail (Utf8.encode (text.toList.flatMap quoteChar) ++ 34 :: rest) = .ok (text, rest) := by
  simp only [stringTail, stringContents_quoted, Bytes.text?_encode, String.ofList_toList]

theorem encode_quote (text : String) :
    Utf8.encode (quote text) = 34 :: (Utf8.encode (text.toList.flatMap quoteChar) ++ [34]) := by
  rw [quote, Utf8.encode_append, Utf8.encode_append]
  rfl

end ScanCheck.Json
