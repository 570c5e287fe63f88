import ScanCheck.Base64

/-!
# Reading Base64 back

A decoder that follows the format and knows nothing of the encoder: every character stands for six bits by its
place in the alphabet, four characters make three bytes, and only the last four may end in padding. What the
encoder writes is in that format, and is read as the bytes that were encoded.
-/

namespace ScanCheck.Base64

/-- The characters that stand for the values from 0 to 63, in this order. -/
def alphabet : List Char := "ABCDEFGHIJKLMNOPQRSTUVWXYZabcdefghijklmnopqrstuvwxyz0123456789+/".toList

/-- The number that a row of symbols stands for, six bits each. -/
def number? (row : List Char) : Option Nat :=
  row.foldlM (fun total char => (alphabet.idxOf? char).map (total * 64 + ·)) 0

/-- The bytes of four characters. The bits behind the last whole byte have to be zero. -/
def group? (first second third fourth : Char) : Option Bytes :=
  if third = '=' ∧ fourth = '=' then do
    let number ← number? [first, second]
    if number % 16 = 0 then some [.ofNat (number / 16)] else none
  else if fourth = '=' then do
    let number ← number? [first, second, third]
    if number % 4 = 0 then some [.ofNat (number / 1024), .ofNat (number / 4 % 256)] else none
  else do
    let number ← number? [first, second, third, fourth]
    some [.ofNat (number / 65536), .ofNat (number / 256 % 256), .ofNat (number % 256)]

def decode? : List Char → Option Bytes
  | [] => some []
  | first :: second :: third :: fourth :: rest =>
    if fourth = '=' ∧ rest ≠ [] then none
    else do
      let bytes ← group? first second third fourth
      let others ← decode? rest
      some (bytes ++ others)
  | _ => none

/-- Symbols of the alphabet, filled up to a multiple of four by at most two signs of equality. -/
def Padded (text : List Char) : Prop :=
  ∃ symbols padding, text = symbols ++ List.replicate padding '=' ∧ padding ≤ 2 ∧
    (∀ char ∈ symbols, char ∈ alphabet) ∧ text.length % 4 = 0

theorem idxOf?_symbol {value : Nat} (small : value < 64) : alphabet.idxOf? (symbol value) = some value := by
  have all : ∀ index < 64, alphabet.idxOf? (symbol index) = some index := by decide +kernel
  exact all value small

theorem symbol_mem_alphabet {value : Nat} (small : value < 64) : symbol value ∈ alphabet := by
  have found := idxOf?_symbol small
  rw [List.idxOf?, List.findIdx?_eq_some_iff_getElem] at found
  obtain ⟨bound, same, -⟩ := found
  exact beq_iff_eq.mp same ▸ List.getElem_mem bound

theorem symbol_ne_padding {value : Nat} (small : value < 64) : symbol value ≠ '=' := by
  intro padding
  have member := symbol_mem_alphabet small
  rw [padding] at member
  revert member
  decide +kernel

/-- A row of symbols is read as the digits of a number to the base of 64. -/
theorem number?_symbols (values : List Nat) (small : ∀ value ∈ values, value < 64) :
    number? (values.map symbol) = some (values.foldl (fun total value => total * 64 + value) 0) := by
  have read (start : Nat) : (values.map symbol).foldlM
      (fun total char => (alphabet.idxOf? char).map (total * 64 + ·)) start =
        some (values.foldl (fun total value => total * 64 + value) start) := by
    induction values generalizing start with
    | nil => rfl
    | cons value values ih =>
        have first := idxOf?_symbol (small value List.mem_cons_self)
        have others := ih fun other member => small other (List.mem_cons_of_mem _ member)
        simp [first, others]
  exact read 0

theorem group?_one (first : UInt8) :
    group? (symbol (first.toNat / 4)) (symbol (first.toNat % 4 * 16)) '=' '=' = some [first] := by
  have bound := first.toNat_lt
  have read := number?_symbols [first.toNat / 4, first.toNat % 4 * 16] (by simp; omega)
  have whole : first.toNat / 4 * 64 + first.toNat % 4 * 16 = first.toNat * 16 := by omega
  simp only [List.map_cons, List.map_nil, List.foldl_cons, List.foldl_nil, Nat.zero_mul, Nat.zero_add, whole]
    at read
  simp [group?, read]

theorem group?_two (first second : UInt8) :
    group? (symbol (first.toNat / 4)) (symbol (first.toNat % 4 * 16 + second.toNat / 16))
      (symbol (second.toNat % 16 * 4)) '=' = some [first, second] := by
  have one := first.toNat_lt
  have two := second.toNat_lt
  have visible : symbol (second.toNat % 16 * 4) ≠ '=' := symbol_ne_padding (by omega)
  have read := number?_symbols
    [first.toNat / 4, first.toNat % 4 * 16 + second.toNat / 16, second.toNat % 16 * 4] (by simp; omega)
  have whole : (first.toNat / 4 * 64 + (first.toNat % 4 * 16 + second.toNat / 16)) * 64 +
      second.toNat % 16 * 4 = first.toNat * 1024 + second.toNat * 4 := by omega
  have front : (first.toNat * 1024 + second.toNat * 4) / 1024 = first.toNat := by omega
  have back : (first.toNat * 1024 + second.toNat * 4) / 4 % 256 = second.toNat := by omega
  have clear : (first.toNat * 1024 + second.toNat * 4) % 4 = 0 := by omega
  simp only [List.map_cons, List.map_nil, List.foldl_cons, List.foldl_nil, Nat.zero_mul, Nat.zero_add, whole]
    at read
  simp [group?, visible, read, front, back, clear]

theorem group?_three (first second third : UInt8) :
    group? (symbol (first.toNat / 4)) (symbol (first.toNat % 4 * 16 + second.toNat / 16))
      (symbol (second.toNat % 16 * 4 + third.toNat / 64)) (symbol (third.toNat % 64)) =
        some [first, second, third] := by
  have one := first.toNat_lt
  have two := second.toNat_lt
  have three := third.toNat_lt
  have visible : symbol (third.toNat % 64) ≠ '=' := symbol_ne_padding (by omega)
  have read := number?_symbols [first.toNat / 4, first.toNat % 4 * 16 + second.toNat / 16,
    second.toNat % 16 * 4 + third.toNat / 64, third.toNat % 64] (by simp; omega)
  have whole : ((first.toNat / 4 * 64 + (first.toNat % 4 * 16 + second.toNat / 16)) * 64 +
      (second.toNat % 16 * 4 + third.toNat / 64)) * 64 + third.toNat % 64 =
        first.toNat * 65536 + second.toNat * 256 + third.toNat := by omega
  have front : (first.toNat * 65536 + second.toNat * 256 + third.toNat) / 65536 = first.toNat := by omega
  have middle : (first.toNat * 65536 + second.toNat * 256 + third.toNat) / 256 % 256 = second.toNat := by omega
  have back : (first.toNat * 65536 + second.toNat * 256 + third.toNat) % 256 = third.toNat := by omega
  simp only [List.map_cons, List.map_nil, List.foldl_cons, List.foldl_nil, Nat.zero_mul, Nat.zero_add, whole]
    at read
  simp [group?, visible, read, front, middle, back]

theorem decode?_encode (bytes : Bytes) : decode? (encode bytes) = some bytes := by
  induction bytes using encode.induct with
  | case1 => rfl
  | case2 first => simp [encode, decode?, group?_one]
  | case3 first second => simp [encode, decode?, group?_two]
  | case4 first second third rest ih =>
      have visible : symbol (third.toNat % 64) ≠ '=' := symbol_ne_padding (by omega)
      simp [encode, decode?, visible, group?_three, ih]

example : decode? "Zm9vYg==".toList = some (utf8 "foob") := by decide +kernel

theorem padded_group (group : List Char) {text : List Char} (whole : group.length = 4)
    (symbols : ∀ char ∈ group, char ∈ alphabet) (padded : Padded text) : Padded (group ++ text) := by
  obtain ⟨others, padding, rfl, few, members, multiple⟩ := padded
  refine ⟨group ++ others, padding, (List.append_assoc _ _ _).symm, few, ?_, ?_⟩
  · intro char member
    rcases List.mem_append.mp member with front | back
    · exact symbols char front
    · exact members char back
  · rw [List.length_append, whole]
    omega

theorem padded_encode (bytes : Bytes) : Padded (encode bytes) := by
  induction bytes using encode.induct with
  | case1 => exact ⟨[], 0, rfl, by decide, by simp, rfl⟩
  | case2 first =>
      have bound := first.toNat_lt
      refine ⟨[_, _], 2, rfl, by decide, ?_, by simp [encode]⟩
      simp only [List.forall_mem_cons]
      exact ⟨symbol_mem_alphabet (by omega), symbol_mem_alphabet (by omega), List.forall_mem_nil _⟩
  | case3 first second =>
      have one := first.toNat_lt
      have two := second.toNat_lt
      refine ⟨[_, _, _], 1, rfl, by decide, ?_, by simp [encode]⟩
      simp only [List.forall_mem_cons]
      exact ⟨symbol_mem_alphabet (by omega), symbol_mem_alphabet (by omega), symbol_mem_alphabet (by omega),
        List.forall_mem_nil _⟩
  | case4 first second third rest ih =>
      have one := first.toNat_lt
      have two := second.toNat_lt
      have three := third.toNat_lt
      refine padded_group [_, _, _, _] rfl ?_ ih
      simp only [List.forall_mem_cons]
      exact ⟨symbol_mem_alphabet (by omega), symbol_mem_alphabet (by omega), symbol_mem_alphabet (by omega),
        symbol_mem_alphabet (by omega), List.forall_mem_nil _⟩

end ScanCheck.Base64
