import ScanCheck.Proofs.Harness.Statuses
import ScanCheck.Proofs.Json.Trees

namespace ScanCheck

namespace Json

def opensNumber (byte : UInt8) : Bool := byte == 45 || isDigit byte

theorem SpellsWith.isNumber_iff {nested : Option (Json → Bytes → Prop)} {tree : Json} {text : Bytes}
    (spells : SpellsWith nested tree text) : tree.IsNumber ↔ ∃ byte ∈ text.head?, opensNumber byte = true := by
  cases spells with
  | negative written => exact iff_of_true trivial ⟨45, rfl, rfl⟩
  | positive written =>
      obtain ⟨byte, tail, rfl, digit⟩ := written.leads
      exact iff_of_true trivial ⟨byte, rfl, by simp [opensNumber, digit]⟩
  | _ => simp [IsNumber, opensNumber, isDigit]

theorem Spells.isNumber_iff {depth : Nat} {tree : Json} {text : Bytes} (spells : Spells depth tree text) :
    tree.IsNumber ↔ ∃ byte ∈ text.head?, opensNumber byte = true := by
  cases depth <;> exact SpellsWith.isNumber_iff spells

theorem isNumber_sorted {tree : Json} : tree.sorted.IsNumber ↔ tree.IsNumber := by
  cases tree <;> simp [sorted, ofMembers, IsNumber]

theorem Blank.eq_nil_of_front {gap rest : Bytes} (blank : Blank gap)
    (front : ∀ byte ∈ (gap ++ rest).head?, isBlank byte = false) : gap = [] := by
  cases gap with
  | nil => rfl
  | cons byte gap =>
      have visible := front byte rfl
      rw [blank byte List.mem_cons_self] at visible
      cases visible

/-- Blanks around a body that has none at its ends are none. -/
theorem Written.spells {tree : Json} {body : Bytes} (written : Written tree body)
    (front : ∀ byte ∈ body.head?, isBlank byte = false) (back : ∀ byte ∈ body.getLast?, isBlank byte = false) :
    Spells deepest tree body := by
  obtain ⟨before, text, after, rfl, blank, behind, spells⟩ := written
  obtain ⟨first, tail, opened, -⟩ := spells.begins
  have noneBefore := blank.eq_nil_of_front front
  have noneAfter : after = [] := by
    rcases List.eq_nil_or_concat after with none | ⟨others, byte, ends⟩
    · exact none
    · have visible := back byte (by simp [ends])
      rw [behind byte (by simp [ends])] at visible
      cases visible
  rw [noneBefore, noneAfter, List.nil_append, List.append_nil]
  exact spells

section Whole

variable {tree : Json} {body : Bytes} (spells : Spells deepest tree body) (other : ¬ tree.IsNumber)

include spells other

/-- A tree that stands at the beginning of the body would have to end where the body ends, or else be a
number, which no body of another value begins with. -/
theorem start_not_written {start rest : Bytes} (split : body = start ++ rest) (cut : rest ≠ [])
    (front : ∀ byte ∈ body.head?, isBlank byte = false) {part : Json} : ¬ Written part start := by
  rintro ⟨before, text, after, rfl, blank, behind, partSpells⟩
  obtain ⟨first, tail, opened, -⟩ := partSpells.begins
  have noneBefore : before = [] := by
    rw [split, List.append_assoc] at front
    exact blank.eq_nil_of_front front
  have notNumber : ¬ part.IsNumber := by
    rw [partSpells.isNumber_iff, opened]
    rw [spells.isNumber_iff, split, noneBefore, opened] at other
    exact other
  have same : [] ++ (body ++ []) = before ++ (text ++ (after ++ rest)) := by
    simp only [split, List.nil_append, List.append_nil, List.append_assoc]
  obtain ⟨-, ends⟩ := Spells.unambiguous spells partSpells blank_nil blank (absurd · other) (absurd · notNumber) same
  exact cut (List.append_eq_nil_iff.mp ends.symm).2

theorem readAll_extended {gap more : Bytes} (blank : Blank gap) {byte : UInt8} (visible : isBlank byte = false) :
    readAll Json.value (body ++ (gap ++ byte :: more)) = .error .malformed := by
  have read := valueWithin_spelled spells blank_nil (gap ++ byte :: more) (absurd · other)
  rw [List.nil_append] at read
  simp only [readAll, Json.value, read, bind, Except.bind, skipBlanks_gap blank visible]

end Whole

end Json

open Json (Blank isBlank)

theorem parseJson_json_eq_ok_iff [Codec.Wording] {body : Bytes} {value : Json} :
    parseJson Codec.json { status := 200, body } = .ok value ↔
      ∃ tree, Json.Written tree body ∧ value = tree.sorted := by
  rw [← Json.readAll_value_iff]
  have decoded : parseJson Codec.json { status := 200, body } =
      (Json.readAll Json.value body).mapError (Codec.json.malformed body) := rfl
  rw [decoded]
  cases Json.readAll Json.value body with
  | error fault => exact iff_of_false nofun nofun
  | ok read =>
      constructor
      · rintro ⟨⟩
        rfl
      · rintro ⟨⟩
        rfl

/-- Of a body that is no number every part from its start is refused, and so is the body with anything but
blanks behind it; with blanks around it the body means the same. -/
theorem bodies_taken_whole [Codec.Wording] {body : Bytes} {value : Json}
    (accepted : parseJson Codec.json { status := 200, body } = .ok value) (notNumber : ¬ value.IsNumber)
    (front : ∀ byte ∈ body.head?, isBlank byte = false) (back : ∀ byte ∈ body.getLast?, isBlank byte = false) :
    (∀ start rest, body = start ++ rest → rest ≠ [] →
      ∃ fault, parseJson Codec.json { status := 200, body := start } = .error (Codec.json.malformed start fault)) ∧
    (∀ before after, Blank before → Blank after →
      parseJson Codec.json { status := 200, body := before ++ body ++ after } = .ok value) ∧
    (∀ gap more byte, Blank gap → isBlank byte = false →
      ∃ fault, parseJson Codec.json { status := 200, body := body ++ gap ++ byte :: more } =
        .error (Codec.json.malformed (body ++ gap ++ byte :: more) fault)) := by
  obtain ⟨tree, written, rfl⟩ := parseJson_json_eq_ok_iff.mp accepted
  have spells := written.spells front back
  have other : ¬ tree.IsNumber := fun number => notNumber (Json.isNumber_sorted.mpr number)
  refine ⟨?truncated, ?padded, ?extended⟩
  case truncated =>
    intro start rest split cut
    refine parseJson_malformed rfl fun value read => ?_
    obtain ⟨part, partWritten, -⟩ := parseJson_json_eq_ok_iff.mp read
    exact Json.start_not_written spells other split cut front partWritten
  case padded =>
    intro before after blank behind
    refine parseJson_json_eq_ok_iff.mpr ⟨tree, ⟨before, body, after, ?_, blank, behind, spells⟩, rfl⟩
    rw [List.append_assoc]
  case extended =>
    intro gap more byte blank visible
    refine ⟨.malformed, ?_⟩
    rw [List.append_assoc]
    exact congrArg (Except.mapError _) (Json.readAll_extended spells other blank visible)

/-- The texts of a list that is cut, put between blanks or given a second time, and the words for those refused. -/
theorem flags_taken_whole :
    let _ : Codec.Wording :=
      { json := fun _ body => if body = [91, 116, 114, 117, 101] then "EOF while parsing a list at line 1 column 5"
          else "trailing characters at line 2 column 1"
        toml := fun _ _ => "" }
    parseJson Codec.json { status := 200, body := [91, 116, 114, 117, 101, 93] } = .ok (.array [.flag true]) ∧
    (∃ fault, parseJson Codec.json { status := 200, body := [91, 116, 114, 117, 101] } =
      .error (.malformedResponse fault "EOF while parsing a list at line 1 column 5")) ∧
    parseJson Codec.json { status := 200, body := [32, 91, 116, 114, 117, 101, 93, 10] } = .ok (.array [.flag true]) ∧
    (∃ fault, parseJson Codec.json { status := 200, body := [91, 116, 114, 117, 101, 93, 10, 91] } =
      .error (.malformedResponse fault "trailing characters at line 2 column 1")) := by
  intro words
  have accepted : parseJson Codec.json { status := 200, body := [91, 116, 114, 117, 101, 93] } =
      .ok (.array [.flag true]) := rfl
  obtain ⟨truncated, padded, extended⟩ := bodies_taken_whole accepted id (by simp [isBlank]) (by simp [isBlank])
  refine ⟨accepted, truncated _ [93] rfl (by decide), padded [32] [10] ?_ ?_, extended [10] [] 91 ?_ rfl⟩ <;>
    simp [Blank, isBlank]

end ScanCheck
