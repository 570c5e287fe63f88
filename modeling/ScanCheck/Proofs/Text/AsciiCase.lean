import Mathlib.Data.List.Forall2
import ScanCheck.Proofs.Text.Blank

namespace ScanCheck.Text

/-- The same character, or a capital and the small letter that stands 32 places behind it. -/
inductive CaseVariant : Char → Char → Prop
  | same (char : Char) : CaseVariant char char
  | lowered {capital small : Char} (letter : 65 ≤ capital.toNat ∧ capital.toNat ≤ 90)
      (form : small.toNat = capital.toNat + 32) : CaseVariant capital small
  | raised {capital small : Char} (letter : 65 ≤ capital.toNat ∧ capital.toNat ≤ 90)
      (form : small.toNat = capital.toNat + 32) : CaseVariant small capital

/-- Place by place the same letters, in whatever case. -/
def SameLetters : List Char → List Char → Prop := List.Forall₂ CaseVariant

theorem isCapital_iff {char : Char} : ('A' ≤ char ∧ char ≤ 'Z') ↔ 65 ≤ char.toNat ∧ char.toNat ≤ 90 :=
  Iff.rfl

theorem toNat_foldAscii (char : Char) : (foldAscii char).toNat =
    if 65 ≤ char.toNat ∧ char.toNat ≤ 90 then char.toNat + 32 else char.toNat := by
  simp only [foldAscii, isCapital_iff]
  split
  · rename_i letter
    have valid : (char.toNat + 32).isValidChar := .inl (by omega)
    rw [Char.ofNat, dif_pos valid]
    rfl
  · rfl

theorem foldAscii_eq_iff {left right : Char} : foldAscii left = foldAscii right ↔ CaseVariant left right := by
  rw [← Char.toNat_inj, toNat_foldAscii, toNat_foldAscii]
  constructor
  · intro same
    by_cases leftCapital : 65 ≤ left.toNat ∧ left.toNat ≤ 90
    · by_cases rightCapital : 65 ≤ right.toNat ∧ right.toNat ≤ 90
      · rw [if_pos leftCapital, if_pos rightCapital] at same
        obtain rfl := Char.toNat_inj.mp (Nat.add_right_cancel same)
        exact .same left
      · rw [if_pos leftCapital, if_neg rightCapital] at same
        exact .lowered leftCapital same.symm
    · by_cases rightCapital : 65 ≤ right.toNat ∧ right.toNat ≤ 90
      · rw [if_neg leftCapital, if_pos rightCapital] at same
        exact .raised rightCapital same
      · rw [if_neg leftCapital, if_neg rightCapital] at same
        obtain rfl := Char.toNat_inj.mp same
        exact .same left
  · intro variant
    cases variant with
    | same => rfl
    | lowered letter form =>
        rw [if_pos letter, if_neg (by omega), form]
    | raised letter form =>
        rw [if_pos letter, if_neg (by omega), form]

/-- A character outside ASCII matches only itself. -/
theorem CaseVariant.eq_of_wide {left right : Char} (variant : CaseVariant left right)
    (wide : 128 ≤ left.toNat ∨ 128 ≤ right.toNat) : left = right := by
  cases variant with
  | same => rfl
  | lowered letter form => omega
  | raised letter form => omega

theorem isBlank_foldAscii (char : Char) : isBlank (foldAscii char) = isBlank char := by
  have code := toNat_foldAscii char
  by_cases letter : 65 ≤ char.toNat ∧ char.toNat ≤ 90
  · rw [if_pos letter] at code
    have small : isBlank (foldAscii char) = false := not_isBlank_of_letter (by omega)
    have capital : isBlank char = false := not_isBlank_of_letter (by omega)
    rw [small, capital]
  · rw [if_neg letter] at code
    rw [Char.toNat_inj.mp code]

theorem CaseVariant.isBlank_eq {left right : Char} (variant : CaseVariant left right) :
    isBlank left = isBlank right := by
  rw [← isBlank_foldAscii left, foldAscii_eq_iff.mpr variant, isBlank_foldAscii]

theorem map_foldAscii_eq_iff {left right : List Char} :
    left.map foldAscii = right.map foldAscii ↔ SameLetters left right := by
  rw [← List.forall₂_eq_eq_eq, List.forall₂_map_left_iff, List.forall₂_map_right_iff]
  simp only [foldAscii_eq_iff]
  rfl

theorem sameAscii_iff {left right : List Char} : sameAscii left right = true ↔ SameLetters left right := by
  rw [sameAscii, beq_iff_eq, map_foldAscii_eq_iff]

theorem map_foldAscii_trim (text : List Char) : (trim text).map foldAscii = trim (text.map foldAscii) := by
  have blanks : isBlank ∘ foldAscii = isBlank := funext isBlank_foldAscii
  simp only [trim, List.dropWhile_map, blanks, ← List.map_reverse]

namespace SameLetters

variable {left middle right : List Char}

theorem symm (same : SameLetters left right) : SameLetters right left :=
  map_foldAscii_eq_iff.mp (map_foldAscii_eq_iff.mpr same).symm

theorem trans (first : SameLetters left middle) (second : SameLetters middle right) : SameLetters left right :=
  map_foldAscii_eq_iff.mp ((map_foldAscii_eq_iff.mpr first).trans (map_foldAscii_eq_iff.mpr second))

/-- What matches a text matches exactly what every variant of the text matches. -/
theorem congr_right (same : SameLetters middle right) : SameLetters left middle ↔ SameLetters left right :=
  ⟨fun first => first.trans same, fun first => first.trans same.symm⟩

theorem congr_left (same : SameLetters left middle) : SameLetters left right ↔ SameLetters middle right :=
  ⟨fun first => same.symm.trans first, fun first => same.trans first⟩

/-- White space has no other case, so it stands at the ends of both texts or of none. -/
theorem trim (same : SameLetters left right) : SameLetters (Text.trim left) (Text.trim right) := by
  apply map_foldAscii_eq_iff.mp
  rw [map_foldAscii_trim, map_foldAscii_trim, map_foldAscii_eq_iff.mpr same]

theorem getElem? (same : SameLetters left right) {place : Nat} {char : Char} (found : left[place]? = some char) :
    ∃ other, right[place]? = some other ∧ CaseVariant char other := by
  induction same generalizing place with
  | nil => cases found
  | @cons first second lefts rights variant others ih =>
      cases place with
      | zero =>
          obtain rfl : first = char := by simpa using found
          exact ⟨second, rfl, variant⟩
      | succ place => exact ih found

theorem exists_of_mem (same : SameLetters left right) {char : Char} (member : char ∈ left) :
    ∃ other ∈ right, CaseVariant char other := by
  obtain ⟨place, found⟩ := List.getElem?_of_mem member
  obtain ⟨other, stands, variant⟩ := same.getElem? found
  exact ⟨other, List.mem_of_getElem? stands, variant⟩

theorem wide_iff (same : SameLetters left right) {char : Char} (wide : 128 ≤ char.toNat) (place : Nat) :
    left[place]? = some char ↔ right[place]? = some char := by
  constructor
  · intro found
    obtain ⟨other, stands, variant⟩ := same.getElem? found
    rw [stands, variant.eq_of_wide (.inl wide)]
  · intro found
    obtain ⟨other, stands, variant⟩ := same.symm.getElem? found
    rw [stands, variant.eq_of_wide (.inl wide)]

end SameLetters

end ScanCheck.Text
