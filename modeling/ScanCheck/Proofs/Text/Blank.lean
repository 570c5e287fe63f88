import Mathlib.Data.List.TakeWhile
import ScanCheck.Text.Blank

namespace ScanCheck.Text

/-- The code points with the Unicode property `White_Space`. -/
def whiteSpaceCodes : List Nat :=
  [0x09, 0x0A, 0x0B, 0x0C, 0x0D, 0x20, 0x85, 0xA0, 0x1680, 0x2000, 0x2001, 0x2002, 0x2003, 0x2004, 0x2005, 0x2006,
    0x2007, 0x2008, 0x2009, 0x200A, 0x2028, 0x2029, 0x202F, 0x205F, 0x3000]

def WhiteSpace (char : Char) : Prop := char.toNat ∈ whiteSpaceCodes

theorem isBlank_iff_whiteSpace {char : Char} : isBlank char = true ↔ WhiteSpace char := by
  simp only [isBlank, blankRanges, List.any_cons, List.any_nil, Bool.or_eq_true, Bool.and_eq_true, decide_eq_true_eq,
    Bool.false_eq_true, WhiteSpace, whiteSpaceCodes, List.mem_cons, List.not_mem_nil, or_false]
  omega

/-- A word with white space around it, and none at its ends. -/
def Trimmed (text word : List Char) : Prop :=
  ∃ before after, text = before ++ word ++ after ∧ (∀ char ∈ before, isBlank char) ∧
    (∀ char ∈ after, isBlank char) ∧ (∀ char ∈ word.head?, isBlank char = false) ∧
    ∀ char ∈ word.getLast?, isBlank char = false

theorem not_isBlank_of_letter {char : Char} (letter : 65 ≤ char.toNat ∧ char.toNat ≤ 122) : isBlank char = false := by
  apply Bool.eq_false_iff.mpr
  rw [Ne, isBlank_iff_whiteSpace]
  simp only [WhiteSpace, whiteSpaceCodes, List.mem_cons, List.not_mem_nil, or_false]
  omega

theorem dropBlanks_append {front : List Char} (back : List Char) (blank : ∀ char ∈ front, isBlank char)
    (visible : ∀ char ∈ back.head?, isBlank char = false) : (front ++ back).dropWhile isBlank = back := by
  rw [List.dropWhile_append_of_pos blank]
  cases back with
  | nil => rfl
  | cons char rest => rw [List.dropWhile_cons, visible char rfl]; rfl

theorem head?_dropBlanks (text : List Char) : ∀ char ∈ (text.dropWhile isBlank).head?, isBlank char = false := by
  intro char first
  have visible := List.head?_dropWhile_not isBlank text
  rw [Option.mem_def.mp first] at visible
  simpa using visible

theorem trimmed_trim (text : List Char) : Trimmed text (trim text) := by
  let rest := text.dropWhile isBlank
  have whole : rest = trim text ++ (rest.reverse.takeWhile isBlank).reverse := by
    rw [trim, ← List.reverse_append, List.takeWhile_append_dropWhile, List.reverse_reverse]
  refine ⟨text.takeWhile isBlank, (rest.reverse.takeWhile isBlank).reverse, ?_, ?_, ?_, ?_, ?_⟩
  · rw [List.append_assoc, ← whole, List.takeWhile_append_dropWhile]
  · exact fun char member => List.mem_takeWhile_imp member
  · exact fun char member => List.mem_takeWhile_imp (List.mem_reverse.mp member)
  · intro char first
    refine head?_dropBlanks text char ?_
    change char ∈ rest.head?
    rw [whole, List.head?_append, Option.mem_def.mp first]
    rfl
  · intro char last
    rw [trim, List.getLast?_reverse] at last
    exact head?_dropBlanks _ char last

theorem trim_eq_iff {text word : List Char} : trim text = word ↔ Trimmed text word := by
  constructor
  · rintro rfl
    exact trimmed_trim text
  · rintro ⟨before, after, rfl, blankBefore, blankAfter, first, last⟩
    cases word with
    | nil =>
        have blank : (before ++ [] ++ after).dropWhile isBlank = [] := by
          rw [List.append_nil, List.dropWhile_eq_nil_iff]
          exact fun char member => (List.mem_append.mp member).elim (blankBefore char) (blankAfter char)
        rw [trim, blank]
        rfl
    | cons char word =>
        have blank : ∀ char ∈ after.reverse, isBlank char := fun char member =>
          blankAfter char (List.mem_reverse.mp member)
        have front := dropBlanks_append (char :: word ++ after) blankBefore first
        have back := dropBlanks_append (char :: word).reverse blank (by rwa [List.head?_reverse])
        rw [trim, List.append_assoc, front, List.reverse_append, back, List.reverse_reverse]

theorem trim_padded {before after : List Char} (blankBefore : ∀ char ∈ before, isBlank char)
    (blankAfter : ∀ char ∈ after, isBlank char) (text : List Char) :
    trim (before ++ text ++ after) = trim text := by
  obtain ⟨front, back, whole, blankFront, blankBack, first, last⟩ := trimmed_trim text
  generalize trim text = word at whole first last ⊢
  subst whole
  apply trim_eq_iff.mpr
  refine ⟨before ++ front, back ++ after, by simp only [List.append_assoc], ?_, ?_, first, last⟩
  · exact fun char member => (List.mem_append.mp member).elim (blankBefore char) (blankFront char)
  · exact fun char member => (List.mem_append.mp member).elim (blankBack char) (blankAfter char)

theorem mem_trim_of_visible {text : List Char} {char : Char} (member : char ∈ text)
    (visible : isBlank char = false) : char ∈ trim text := by
  obtain ⟨before, after, whole, blankBefore, blankAfter, -⟩ := trimmed_trim text
  have notBlank : ¬isBlank char = true := Bool.eq_false_iff.mp visible
  rw [whole, List.mem_append, List.mem_append] at member
  rcases member with (inFront | inside) | behind
  · exact absurd (blankBefore char inFront) notBlank
  · exact inside
  · exact absurd (blankAfter char behind) notBlank

/-- What stands between two visible characters is not at an end, so it stays. -/
theorem mem_trim_of_between {front back : List Char} {char left right : Char} (inFront : left ∈ front)
    (leftVisible : isBlank left = false) (behind : right ∈ back) (rightVisible : isBlank right = false) :
    char ∈ trim (front ++ char :: back) := by
  obtain ⟨before, after, whole, blankBefore, blankAfter, -⟩ := trimmed_trim (front ++ char :: back)
  generalize trim (front ++ char :: back) = word at whole ⊢
  rw [List.append_assoc] at whole
  have notBefore (more : List Char) : before ≠ front ++ more := by
    intro early
    have blank := blankBefore left (early ▸ List.mem_append_left more inFront)
    rw [leftVisible] at blank
    cases blank
  have notAfter (more : List Char) : after ≠ more ++ char :: back := by
    intro late
    have blank := blankAfter right (late ▸ List.mem_append_right more (List.mem_cons_of_mem char behind))
    rw [rightVisible] at blank
    cases blank
  rcases List.append_eq_append_iff.mp whole with ⟨more, early, -⟩ | ⟨others, -, rest⟩
  · exact absurd early (notBefore more)
  rcases List.append_eq_append_iff.mp rest with ⟨more, -, late⟩ | ⟨more, inWord, split⟩
  · exact absurd late (notAfter more)
  cases more with
  | nil => exact absurd split.symm (notAfter [])
  | cons first more =>
      obtain ⟨rfl, -⟩ := List.cons.inj split
      rw [inWord]
      exact List.mem_append_right others List.mem_cons_self

end ScanCheck.Text
