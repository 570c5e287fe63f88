import ScanCheck.Proofs.Text.Utf8

/-!
# Malformed stretches

Any bytes can be cut into characters and malformed stretches, and there is only one way to do it: a stretch
goes as far as its bytes could still have become a character. The text of the bytes has one replacement
character for every such stretch, and the characters as they are.
-/

namespace ScanCheck.Utf8

/-- The bytes of some character start with these. -/
def BeginsCharacter (bytes : Bytes) : Prop := ∃ char, bytes <+: String.utf8EncodeChar char

/-- No character stands in front of these bytes, and `stretch` is the longest part at their front with
which a character could have begun. If no character begins with the first byte, that byte is the stretch. -/
structure Malformed (stretch rest : Bytes) : Prop where
  nonempty : stretch ≠ []
  noCharacter : ∀ char, ¬ String.utf8EncodeChar char <+: stretch ++ rest
  begins : stretch.length = 1 ∨ BeginsCharacter stretch
  longest : ∀ longer, longer <+: stretch ++ rest → stretch.length < longer.length → ¬ BeginsCharacter longer

/-- A text has the characters of a byte string, and a replacement character for every malformed stretch. -/
inductive Replaced : Bytes → List Char → Prop
  | nil : Replaced [] []
  | character (char : Char) {rest : Bytes} {text : List Char} (others : Replaced rest text) :
      Replaced (String.utf8EncodeChar char ++ rest) (char :: text)
  | malformed {stretch rest : Bytes} {text : List Char} (malformed : Malformed stretch rest)
      (others : Replaced rest text) : Replaced (stretch ++ rest) (replacement :: text)

/-- The bytes that an open character still needs, and the value that it then has. -/
inductive Completes : Pending → Bytes → Nat → Prop
  | last {low high value : Nat} {byte : UInt8} (above : low ≤ byte.toNat) (below : byte.toNat ≤ high) :
      Completes ⟨0, low, high, value⟩ [byte] (value * 64 + (byte.toNat - 0x80))
  | next {more low high value whole : Nat} {byte : UInt8} {rest : Bytes} (above : low ≤ byte.toNat)
      (below : byte.toNat ≤ high)
      (others : Completes ⟨more, 0x80, 0xBF, value * 64 + (byte.toNat - 0x80)⟩ rest whole) :
      Completes ⟨more + 1, low, high, value⟩ (byte :: rest) whole

theorem exists_completes (more low high value : Nat) (possible : low ≤ high) (bound : high < 256) :
    ∃ rest whole, rest ≠ [] ∧ Completes ⟨more, low, high, value⟩ rest whole := by
  have least := byte_toNat (Nat.lt_of_le_of_lt possible bound)
  induction more generalizing low high value with
  | zero => exact ⟨_, _, List.cons_ne_nil _ _, .last (Nat.le_of_eq least.symm) (least.symm ▸ possible)⟩
  | succ more ih =>
      obtain ⟨rest, whole, -, others⟩ := ih 0x80 0xBF
        (value * 64 + ((UInt8.ofNat low).toNat - 0x80)) (by decide) (by decide) rfl
      exact ⟨_, whole, List.cons_ne_nil _ _, .next (Nat.le_of_eq least.symm) (least.symm ▸ possible) others⟩

/-- What a lead byte says of its character, by the number of the bytes behind it. The bounds on the second
byte are tighter behind four of the lead bytes. -/
theorem lead_opens {byte : UInt8} {more low high value : Nat}
    (opens : lead byte = .opens ⟨more, low, high, value⟩) :
    0x80 ≤ low ∧ low ≤ high ∧ high ≤ 0xBF ∧
      ((more = 0 ∧ value + 0xC0 = byte.toNat ∧ 2 ≤ value ∧ value < 0x20) ∨
        (more = 1 ∧ value + 0xE0 = byte.toNat ∧ value < 0x10 ∧ (value = 0 → 0xA0 ≤ low) ∧
          (value = 0xD → high ≤ 0x9F)) ∨
        (more = 2 ∧ value + 0xF0 = byte.toNat ∧ value < 5 ∧ (value = 0 → 0x90 ≤ low) ∧
          (value = 4 → high ≤ 0x8F))) := by
  unfold lead at opens
  dsimp only at opens
  repeat' split at opens
  all_goals cases opens
  all_goals omega

theorem ofNat_eq_of_toNat (byte : UInt8) {value : Nat} (same : value = byte.toNat) : UInt8.ofNat value = byte := by
  rw [same, UInt8.ofNat_toNat]

theorem val_ofNat (value : Nat) (scalar : value.isValidChar) : (Char.ofNat value).val.toNat = value := by
  rw [Char.ofNat, dif_pos scalar]
  rfl

theorem encodeChar_of_lead {byte : UInt8} {char : Char} (whole : lead byte = .character char) :
    String.utf8EncodeChar char = [byte] := by
  have ascii : byte.toNat < 0x80 ∧ Char.ofNat byte.toNat = char := by
    unfold lead at whole
    dsimp only at whole
    repeat' split at whole
    all_goals cases whole
    exact ⟨by assumption, rfl⟩
  have code : char.toNat = byte.toNat := ascii.2 ▸ val_ofNat byte.toNat (.inl (by omega))
  rw [encodeChar_ascii (by omega), code, UInt8.ofNat_toNat]

/-- The bytes that the automaton takes for a character are those that the character is written with. -/
theorem encodeChar_of_completes {byte : UInt8} {pending : Pending} (opens : lead byte = .opens pending)
    {rest : Bytes} {whole : Nat} (completes : Completes pending rest whole) :
    String.utf8EncodeChar (Char.ofNat whole) = byte :: rest := by
  obtain ⟨more, low, high, value⟩ := pending
  obtain ⟨least, -, greatest, two | three | four⟩ := lead_opens opens
  · obtain ⟨rfl, lead, range⟩ := two
    cases completes with
    | @last _ _ _ second above below =>
        have code := val_ofNat (value * 64 + (second.toNat - 0x80)) (.inl (by omega))
        unfold String.utf8EncodeChar
        simp only [code]
        rw [if_neg (by omega), if_pos (by omega), ofNat_eq_of_toNat byte (by omega),
          ofNat_eq_of_toNat second (by omega)]
  · obtain ⟨rfl, lead, range⟩ := three
    cases completes with
    | @next _ _ _ _ _ second _ above below others =>
        cases others with
        | @last _ _ _ third high low =>
            have code := val_ofNat
              ((value * 64 + (second.toNat - 0x80)) * 64 + (third.toNat - 0x80)) (by
                unfold Nat.isValidChar
                omega)
            unfold String.utf8EncodeChar
            simp only [code]
            rw [if_neg (by omega), if_neg (by omega), if_pos (by omega),
              ofNat_eq_of_toNat byte (by omega), ofNat_eq_of_toNat second (by omega),
              ofNat_eq_of_toNat third (by omega)]
  · obtain ⟨rfl, lead, range⟩ := four
    cases completes with
    | @next _ _ _ _ _ second _ above below others =>
        cases others with
        | @next _ _ _ _ _ third _ high low others =>
            cases others with
            | @last _ _ _ fourth high low =>
                have code := val_ofNat
                  (((value * 64 + (second.toNat - 0x80)) * 64 + (third.toNat - 0x80)) * 64 +
                    (fourth.toNat - 0x80)) (.inr ⟨by omega, by omega⟩)
                unfold String.utf8EncodeChar
                simp only [code]
                rw [if_neg (by omega), if_neg (by omega), if_neg (by omega),
                  ofNat_eq_of_toNat byte (by omega), ofNat_eq_of_toNat second (by omega),
                  ofNat_eq_of_toNat third (by omega), ofNat_eq_of_toNat fourth (by omega)]

/-- These bytes have opened a character that still needs some, and nothing has been read of it yet. -/
structure Held (front : Bytes) (pending : Pending) : Prop where
  nonempty : front ≠ []
  possible : pending.low ≤ pending.high
  bound : pending.high < 256
  completed : ∀ rest whole, Completes pending rest whole → String.utf8EncodeChar (Char.ofNat whole) = front ++ rest
  unread : ∀ rest, pieces none (front ++ rest) = pieces (some pending) rest

theorem held_lead {byte : UInt8} {pending : Pending} (opens : lead byte = .opens pending) :
    Held [byte] pending where
  nonempty := List.cons_ne_nil _ _
  possible := (lead_opens opens).2.1
  bound := Nat.lt_of_le_of_lt (lead_opens opens).2.2.1 (by decide)
  completed _ _ completes := encodeChar_of_completes opens completes
  unread _ := pieces_open opens

theorem Held.next {front : Bytes} {more low high value : Nat} {byte : UInt8}
    (held : Held front ⟨more + 1, low, high, value⟩) (above : low ≤ byte.toNat) (below : byte.toNat ≤ high) :
    Held (front ++ [byte]) ⟨more, 0x80, 0xBF, value * 64 + (byte.toNat - 0x80)⟩ where
  nonempty := List.append_ne_nil_of_left_ne_nil held.nonempty _
  possible := show 0x80 ≤ 0xBF by decide
  bound := show 0xBF < 256 by decide
  completed rest whole completes := by
    rw [held.completed _ _ (.next above below completes), List.append_assoc, List.singleton_append]
  unread rest := by rw [List.append_assoc, List.singleton_append, held.unread, pieces_next above below]

theorem pieces_unfit {pending : Pending} {byte : UInt8} {rest : Bytes}
    (unfit : ¬ (pending.low ≤ byte.toNat ∧ byte.toNat ≤ pending.high)) :
    pieces (some pending) (byte :: rest) = none :: pieces none (byte :: rest) := by
  simp only [pieces, step, if_neg unfit, List.cons_append]

/-- The first piece of bytes with a character in front is that character. -/
theorem noCharacter_of_pieces {bytes : Bytes} {others : List (Option Char)}
    (malformed : pieces none bytes = none :: others) (char : Char) : ¬ String.utf8EncodeChar char <+: bytes := by
  rintro ⟨rest, rfl⟩
  rw [pieces_encodeChar] at malformed
  cases malformed

theorem BeginsCharacter.front {bytes longer : Bytes} (begins : BeginsCharacter longer) (front : bytes <+: longer) :
    BeginsCharacter bytes :=
  begins.imp fun _ inside => front.trans inside

theorem not_beginsCharacter {bytes : Bytes}
    (malformed : ∀ rest, ∃ others, pieces none (bytes ++ rest) = none :: others) : ¬ BeginsCharacter bytes := by
  rintro ⟨char, rest, whole⟩
  obtain ⟨others, read⟩ := malformed rest
  rw [whole] at read
  exact noCharacter_of_pieces read char (List.prefix_refl _)

theorem pieces_stray {byte : UInt8} (stray : lead byte = .stray) (rest : Bytes) :
    pieces none (byte :: rest) = none :: pieces none rest := by
  simp only [pieces, step, start, stray, List.cons_append, List.nil_append]

theorem malformed_stray {byte : UInt8} (stray : lead byte = .stray) (rest : Bytes) : Malformed [byte] rest where
  nonempty := List.cons_ne_nil _ _
  noCharacter := noCharacter_of_pieces (pieces_stray stray rest)
  begins := .inl rfl
  longest longer inside further begins := by
    have stops : ¬ BeginsCharacter [byte] := not_beginsCharacter fun rest => ⟨_, pieces_stray stray rest⟩
    refine stops (begins.front ?_)
    exact List.prefix_of_prefix_length_le (List.prefix_append _ _) inside (Nat.le_of_lt further)

namespace Held

variable {front : Bytes} {pending : Pending}

theorem beginsCharacter (held : Held front pending) : BeginsCharacter front := by
  obtain ⟨rest, whole, -, completes⟩ := exists_completes pending.more _ _ pending.value held.possible
    held.bound
  exact ⟨Char.ofNat whole, rest, (held.completed rest whole completes).symm⟩

theorem malformed_end (held : Held front pending) : Malformed front [] where
  nonempty := held.nonempty
  noCharacter := noCharacter_of_pieces (held.unread [] : _ = none :: [])
  begins := .inr held.beginsCharacter
  longest longer inside further := by
    have shorter := inside.length_le
    rw [List.append_nil] at shorter
    omega

theorem malformed_unfit (held : Held front pending) {byte : UInt8}
    (unfit : ¬ (pending.low ≤ byte.toNat ∧ byte.toNat ≤ pending.high)) (rest : Bytes) :
    Malformed front (byte :: rest) where
  nonempty := held.nonempty
  noCharacter := noCharacter_of_pieces ((held.unread _).trans (pieces_unfit unfit))
  begins := .inr held.beginsCharacter
  longest longer inside further begins := by
    have stops : ¬ BeginsCharacter (front ++ [byte]) := not_beginsCharacter fun rest =>
      ⟨pieces none (byte :: rest), by
        rw [List.append_assoc, List.singleton_append, held.unread, pieces_unfit unfit]⟩
    have split : front ++ [byte] <+: front ++ byte :: rest := ⟨rest, by rw [List.append_assoc, List.singleton_append]⟩
    refine stops (begins.front (List.prefix_of_prefix_length_le split inside ?_))
    rw [List.length_append, List.length_singleton]
    exact further

/-- An open character is either completed or malformed. The induction is on the bytes that are still to be
read; each that fits goes over to those that opened the character. -/
theorem pieces_cases (held : Held front pending) (rest : Bytes) :
    (∃ char others, front ++ rest = String.utf8EncodeChar char ++ others) ∨
      ∃ stretch others, front ++ rest = stretch ++ others ∧ Malformed stretch others ∧
        pieces none (front ++ rest) = none :: pieces none others := by
  induction rest generalizing front pending with
  | nil => exact .inr ⟨front, [], rfl, held.malformed_end, held.unread []⟩
  | cons byte rest ih =>
      by_cases fits : pending.low ≤ byte.toNat ∧ byte.toNat ≤ pending.high
      · obtain ⟨more, low, high, value⟩ := pending
        cases more with
        | zero =>
            have whole := held.completed _ _ (.last fits.1 fits.2)
            exact .inl ⟨_, rest, by rw [whole, List.append_assoc, List.singleton_append]⟩
        | succ more =>
            have behind := ih (held.next fits.1 fits.2)
            rwa [List.append_assoc, List.singleton_append] at behind
      · exact .inr ⟨front, byte :: rest, rfl, held.malformed_unfit fits rest,
          (held.unread _).trans (pieces_unfit fits)⟩

end Held

/-- Bytes start with a character or with a malformed stretch, and the automaton sees which. -/
theorem pieces_front {bytes : Bytes} (some : bytes ≠ []) :
    (∃ char others, bytes = String.utf8EncodeChar char ++ others) ∨
      ∃ stretch others, bytes = stretch ++ others ∧ Malformed stretch others ∧
        pieces none bytes = none :: pieces none others := by
  obtain ⟨byte, rest, rfl⟩ := List.exists_cons_of_ne_nil some
  cases first : lead byte with
  | character char => exact .inl ⟨char, rest, by rw [encodeChar_of_lead first, List.singleton_append]⟩
  | opens pending => exact (held_lead first).pieces_cases rest
  | stray => exact .inr ⟨[byte], rest, rfl, malformed_stray first rest, pieces_stray first rest⟩

theorem decodeLossy_character (char : Char) (rest : Bytes) :
    decodeLossy (String.utf8EncodeChar char ++ rest) = char :: decodeLossy rest := by
  rw [decodeLossy, pieces_encodeChar]
  rfl

theorem Malformed.length_le {stretch other rest behind : Bytes} (malformed : Malformed stretch rest)
    (second : Malformed other behind) (same : stretch ++ rest = other ++ behind) :
    other.length ≤ stretch.length := by
  refine Nat.not_lt.mp fun further => ?_
  have inside : other <+: stretch ++ rest := same ▸ List.prefix_append _ _
  have positive := List.length_pos_iff.mpr malformed.nonempty
  refine malformed.longest other inside (by omega) (second.begins.resolve_left ?_)
  omega

theorem Malformed.unique {stretch other rest behind : Bytes} (malformed : Malformed stretch rest)
    (second : Malformed other behind) (same : stretch ++ rest = other ++ behind) :
    stretch = other ∧ rest = behind :=
  List.append_inj same (Nat.le_antisymm (second.length_le malformed same.symm) (malformed.length_le second same))

theorem decodeLossy_malformed {stretch rest : Bytes} (malformed : Malformed stretch rest) :
    decodeLossy (stretch ++ rest) = replacement :: decodeLossy rest := by
  obtain ⟨char, others, whole⟩ | ⟨other, others, split, second, read⟩ :=
    pieces_front (List.append_ne_nil_of_left_ne_nil malformed.nonempty rest)
  · exact absurd ⟨others, whole.symm⟩ (malformed.noCharacter char)
  · obtain ⟨-, rfl⟩ := malformed.unique second split
    rw [decodeLossy, read]
    rfl

/-- The lossy text of a byte string is the one in which malformed stretches are replaced. The first half is
an induction on how the text came about, the second one on the number of bytes. -/
theorem replaced_iff {bytes : Bytes} {text : List Char} : Replaced bytes text ↔ text = decodeLossy bytes := by
  constructor
  · intro replaced
    induction replaced with
    | nil => rfl
    | character char others ih => rw [decodeLossy_character, ih]
    | malformed malformed others ih => rw [decodeLossy_malformed malformed, ih]
  · rintro rfl
    induction length : bytes.length using Nat.strongRecOn generalizing bytes with
    | _ count ih =>
        by_cases empty : bytes = []
        · subst empty
          exact .nil
        · obtain ⟨char, others, rfl⟩ | ⟨stretch, others, rfl, malformed, -⟩ := pieces_front empty
          · have fewer : others.length < count := by
              have some := List.length_pos_iff.mpr (String.utf8EncodeChar_ne_nil (c := char))
              rw [List.length_append] at length
              omega
            rw [decodeLossy_character]
            exact .character char (ih _ fewer rfl)
          · have fewer : others.length < count := by
              have some := List.length_pos_iff.mpr malformed.nonempty
              rw [List.length_append] at length
              omega
            rw [decodeLossy_malformed malformed]
            exact .malformed malformed (ih _ fewer rfl)

theorem eq_map_some_of_mapM {pieces : List (Option Char)} {text : List Char} (all : pieces.mapM id = some text) :
    pieces = text.map some := by
  induction pieces generalizing text with
  | nil => cases all; rfl
  | cons piece pieces ih =>
      rw [List.mapM_cons] at all
      cases piece with
      | none => cases all
      | some char =>
          cases read : pieces.mapM id with
          | none => rw [read] at all; cases all
          | some others =>
              rw [read] at all
              cases all
              rw [ih read, List.map_cons]

theorem eq_encode_of_pieces {bytes : Bytes} {text : List Char} (whole : pieces none bytes = text.map some) :
    bytes = encode text := by
  induction text generalizing bytes with
  | nil =>
      refine Decidable.byContradiction fun some => ?_
      obtain ⟨char, others, rfl⟩ | ⟨stretch, others, rfl, -, read⟩ := pieces_front some
      · rw [pieces_encodeChar] at whole
        cases whole
      · rw [read] at whole
        cases whole
  | cons char text ih =>
      have some : bytes ≠ [] := by
        rintro rfl
        cases whole
      obtain ⟨first, others, rfl⟩ | ⟨stretch, others, rfl, -, read⟩ := pieces_front some
      · rw [pieces_encodeChar] at whole
        obtain ⟨same, behind⟩ := List.cons.inj whole
        cases same
        rw [ih behind, encode_cons]
      · rw [read] at whole
        cases whole

end ScanCheck.Utf8

namespace ScanCheck

theorem Bytes.text?_eq_some_iff {bytes : Bytes} {text : String} : bytes.text? = some text ↔ bytes = utf8 text := by
  constructor
  · intro strict
    obtain ⟨characters, decoded, rfl⟩ := Option.map_eq_some_iff.mp strict
    rw [utf8, String.toList_ofList]
    exact Utf8.eq_encode_of_pieces (Utf8.eq_map_some_of_mapM decoded)
  · rintro rfl
    rw [utf8, Bytes.text?_encode, String.ofList_toList]

theorem Bytes.text_utf8_append (front : String) (back : Bytes) : (utf8 front ++ back).text = front ++ back.text := by
  rw [Bytes.text, utf8, Utf8.decodeLossy, Utf8.pieces_encode, List.map_append, List.map_map, String.ofList_append,
    Bytes.text, Utf8.decodeLossy]
  exact congrArg (· ++ _) ((congrArg String.ofList (List.map_id _)).trans String.ofList_toList)

end ScanCheck
