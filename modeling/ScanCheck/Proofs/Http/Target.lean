import Mathlib.Data.List.TakeWhile
import ScanCheck.Http.Target
import ScanCheck.Proofs.Text.Utf8

namespace ScanCheck

namespace Text

variable {mark : Char}

theorem fields_mark (text : List Char) : fields mark (mark :: text) = [] :: fields mark text := if_pos rfl

theorem fields_prepend {field text first : List Char} {others : List (List Char)} (inside : mark ∉ field)
    (cut : fields mark text = first :: others) :
    fields mark (field ++ text) = (field ++ first) :: others := by
  induction field with
  | nil => exact cut
  | cons char field ih =>
      rw [List.mem_cons, not_or] at inside
      rw [List.cons_append, fields, if_neg (Ne.symm inside.1), ih inside.2]
      rfl

/-- A text is cut where marks were put between its parts. -/
theorem fields_joined (first : List Char) (others : List (List Char))
    (clean : ∀ field ∈ first :: others, mark ∉ field) :
    fields mark (first ++ others.flatMap (mark :: ·)) = first :: others := by
  induction others generalizing first with
  | nil =>
      have whole := fields_prepend (clean first List.mem_cons_self) (show fields mark [] = [] :: [] from rfl)
      rw [List.append_nil] at whole
      rw [List.flatMap_nil, List.append_nil, whole]
  | cons second others ih =>
      have behind := ih second fun field member => clean field (List.mem_cons_of_mem _ member)
      have cut : fields mark ((second :: others).flatMap (mark :: ·)) = [] :: second :: others := by
        rw [List.flatMap_cons, List.cons_append, fields_mark, behind]
      have whole := fields_prepend (clean first List.mem_cons_self) cut
      rwa [List.append_nil] at whole

/-- A text is cut at every mark. -/
theorem notMem_fields (text : List Char) : ∀ field ∈ fields mark text, mark ∉ field := by
  induction text with
  | nil => simp [fields]
  | cons char rest ih =>
      rw [fields]
      split
      · simpa using ih
      · rename_i other
        split
        · simpa using Ne.symm other
        · rename_i first others cut
          rw [cut] at ih
          simpa [Ne.symm other] using ih

end Text

namespace Target

/-- The characters that end a segment or a path, or open an escape. -/
def marks : List Char := ['/', '?', '#', '%']

def isPlain (segment : List Char) : Bool := segment.all fun char => !marks.contains char

theorem notMem_of_isPlain {segment : List Char} (plain : isPlain segment = true) {mark : Char}
    (special : marks.contains mark = true) : mark ∉ segment := by
  intro member
  have ordinary := List.all_eq_true.mp plain mark member
  rw [special] at ordinary
  cases ordinary

/-- No character that ends a segment or the path. -/
structure Whole (segment : List Char) : Prop where
  noSlash : '/' ∉ segment
  noQuery : '?' ∉ segment
  noFragment : '#' ∉ segment

theorem whole_of_isPlain {segment : List Char} (plain : isPlain segment = true) : Whole segment where
  noSlash := notMem_of_isPlain plain (by decide)
  noQuery := notMem_of_isPlain plain (by decide)
  noFragment := notMem_of_isPlain plain (by decide)

def join (segments : List (List Char)) : List Char := segments.flatMap ('/' :: ·)

theorem mem_join_iff {segments : List (List Char)} {char : Char} (inside : char ≠ '/') :
    char ∈ join segments ↔ ∃ segment ∈ segments, char ∈ segment := by
  simp [join, inside]

theorem withoutQuery_append {front : List Char} (noQuery : '?' ∉ front) (noFragment : '#' ∉ front) (text : List Char) :
    withoutQuery (front ++ text) = front ++ withoutQuery text := by
  refine List.takeWhile_append_of_pos fun char member => ?_
  have others : char ≠ '?' ∧ char ≠ '#' := ⟨fun same => noQuery (same ▸ member), fun same => noFragment (same ▸ member)⟩
  simp [others]

@[simp] theorem withoutQuery_slash (text : List Char) : withoutQuery ('/' :: text) = '/' :: withoutQuery text := by
  simp [withoutQuery]

/-- A path from the root does not stand behind a scheme: the text in front of its first slash is empty. -/
theorem path_of_rooted {text : List Char} (rooted : text.head? = some '/') :
    path text = Text.fields '/' (withoutQuery text) := by
  obtain ⟨rest, rfl⟩ := List.head?_eq_some_iff.mp rooted
  rw [path, withoutQuery_slash, Text.fields_mark]
  split
  · rename_i scheme authority others same
    obtain ⟨rfl, same⟩ := List.cons.inj same
    simp [same]
  · rfl

/-- The text is the path of the segments, without a query and without a fragment. -/
structure IsPath (text : List Char) (segments : List (List Char)) : Prop where
  noQuery : '?' ∉ text
  noFragment : '#' ∉ text
  cut : Text.fields '/' text = [] :: segments

theorem isPath_join_iff {segments : List (List Char)} :
    IsPath (join segments) segments ↔ ∀ segment ∈ segments, Whole segment := by
  constructor
  · intro made segment member
    have occurs {mark : Char} (inside : mark ∈ segment) (other : mark ≠ '/') : mark ∈ join segments :=
      (mem_join_iff other).mpr ⟨segment, member, inside⟩
    exact {
      noSlash := Text.notMem_fields _ segment (made.cut ▸ List.mem_cons_of_mem _ member)
      noQuery := fun inside => made.noQuery (occurs inside (by decide))
      noFragment := fun inside => made.noFragment (occurs inside (by decide)) }
  · intro whole
    have absent {mark : Char} (clean : ∀ segment ∈ segments, mark ∉ segment) (other : mark ≠ '/') :
        mark ∉ join segments := by
      intro occurs
      obtain ⟨segment, member, inside⟩ := (mem_join_iff other).mp occurs
      exact clean segment member inside
    have noQuery := absent (fun segment member => (whole segment member).noQuery) (by decide)
    have noFragment := absent (fun segment member => (whole segment member).noFragment) (by decide)
    refine ⟨noQuery, noFragment, Text.fields_joined [] segments fun segment member => ?_⟩
    rcases List.mem_cons.mp member with rfl | member
    · exact List.not_mem_nil
    · exact (whole segment member).noSlash

theorem IsPath.path {text : List Char} {segments : List (List Char)} (made : IsPath text segments)
    (rooted : text.head? = some '/') : path text = [] :: segments := by
  have kept : withoutQuery text = text := by
    simpa [withoutQuery] using withoutQuery_append made.noQuery made.noFragment []
  rw [path_of_rooted rooted, kept, made.cut]

theorem fields_join_append {segments : List (List Char)} (whole : ∀ segment ∈ segments, Whole segment)
    (text : List Char) :
    Text.fields '/' (join segments ++ '/' :: text) = [] :: (segments ++ Text.fields '/' text) := by
  induction segments with
  | nil => exact Text.fields_mark text
  | cons first others ih =>
      have behind := ih fun segment member => whole segment (List.mem_cons_of_mem _ member)
      have cut := Text.fields_prepend (whole first List.mem_cons_self).noSlash behind
      rw [List.append_nil] at cut
      have rooted : join (first :: others) ++ '/' :: text = '/' :: (first ++ (join others ++ '/' :: text)) := by
        simp [join]
      rw [rooted, Text.fields_mark, cut, List.cons_append]

/-- The segments in front of anything stay in front, whatever stands behind them. -/
theorem path_join_append {segments : List (List Char)} (whole : ∀ segment ∈ segments, Whole segment)
    (text : List Char) :
    path (join segments ++ '/' :: text) = [] :: (segments ++ Text.fields '/' (withoutQuery text)) := by
  have made := isPath_join_iff.mpr whole
  have rooted : (join segments ++ '/' :: text).head? = some '/' := by cases segments <;> rfl
  rw [path_of_rooted rooted, withoutQuery_append made.noQuery made.noFragment, withoutQuery_slash,
    fields_join_append whole]

/-- There is an escape: a percent sign with two hexadecimal digits behind it. -/
def Escaped (bytes : Bytes) : Prop := ∃ front high low rest value,
  bytes = front ++ 37 :: high :: low :: rest ∧ escapedByte? high low = some value

theorem Escaped.cons {bytes : Bytes} (byte : UInt8) (escaped : Escaped bytes) : Escaped (byte :: bytes) := by
  obtain ⟨front, high, low, rest, value, rfl, digits⟩ := escaped
  exact ⟨byte :: front, high, low, rest, value, rfl, digits⟩

theorem length_unescape_le (bytes : Bytes) : (unescape bytes).length ≤ bytes.length := by
  fun_induction unescape bytes with
  | case1 => exact Nat.le_refl _
  | case2 high low others escaped digits ih =>
      simp only [List.length_cons]
      omega
  | case3 high low others digits ih => exact Nat.succ_le_succ ih
  | case4 short ends => exact Nat.le_refl _
  | case5 byte rest other ih => exact Nat.succ_le_succ ih

/-- An escape makes the bytes fewer, wherever it is. -/
theorem Escaped.length_lt {bytes : Bytes} (escaped : Escaped bytes) : (unescape bytes).length < bytes.length := by
  obtain ⟨front, first, second, rest, value, split, digits⟩ := escaped
  fun_induction unescape bytes generalizing front with
  | case1 => simp at split
  | case2 high low others escaped digits ih =>
      have fewer := length_unescape_le others
      simp only [List.length_cons]
      omega
  | case3 high low others none ih =>
      cases front with
      | nil =>
          cases split
          rw [digits] at none
          cases none
      | cons byte front => exact Nat.succ_lt_succ (ih front (List.cons.inj split).2)
  | case4 short ends =>
      have lengths := congrArg List.length split
      simp only [List.length_append, List.length_cons] at lengths
      match short with
      | [] =>
          simp only [List.length_nil] at lengths
          omega
      | [_] =>
          simp only [List.length_cons, List.length_nil] at lengths
          omega
      | high :: low :: others => exact (ends high low others rfl).elim
  | case5 byte others other ih =>
      cases front with
      | nil => exact absurd (List.cons.inj split).1 other
      | cons first front => exact Nat.succ_lt_succ (ih front (List.cons.inj split).2)

/-- Bytes are left as they are exactly if there is no escape among them. -/
theorem unescape_eq_self_iff {bytes : Bytes} : unescape bytes = bytes ↔ ¬ Escaped bytes := by
  constructor
  · intro same escaped
    have fewer := escaped.length_lt
    rw [same] at fewer
    exact Nat.lt_irrefl _ fewer
  · intro literal
    fun_induction unescape bytes with
    | case1 => rfl
    | case2 high low others escaped digits ih => exact absurd ⟨[], high, low, others, escaped, rfl, digits⟩ literal
    | case3 high low others none ih => rw [ih (fun escaped => literal (escaped.cons 37))]
    | case4 short ends => rfl
    | case5 byte rest other ih => rw [ih (fun escaped => literal (escaped.cons byte))]

theorem unescape_of_notMem {bytes : Bytes} (literal : 37 ∉ bytes) : unescape bytes = bytes := by
  refine unescape_eq_self_iff.mpr fun escaped => ?_
  obtain ⟨front, high, low, rest, value, split, -⟩ := escaped
  exact literal (by simp [split])

theorem notMem_encode {text : List Char} (literal : '%' ∉ text) : 37 ∉ Utf8.encode text := by
  induction text with
  | nil => exact List.not_mem_nil
  | cons char text ih =>
      rw [List.mem_cons, not_or] at literal
      rw [Utf8.encode_cons, List.mem_append, not_or]
      refine ⟨fun member => ?_, ih literal.2⟩
      by_cases ascii : char.toNat < 0x80
      · rw [Utf8.encodeChar_ascii ascii, List.mem_singleton] at member
        have code := congrArg UInt8.toNat member
        rw [Utf8.byte_toNat (by omega)] at code
        refine literal.1 ?_
        rw [← Char.ofNat_toNat char, ← code]
        rfl
      · have wide := Utf8.encodeChar_wide (by omega) 37 member
        exact absurd wide (by decide)

end Target

end ScanCheck
