import ScanCheck.Http.Message
import ScanCheck.Proofs.Text.AsciiCase

namespace ScanCheck

open Text (SameLetters)

/-- Two names with the same letters, whatever the case of those in ASCII. -/
def SameName (left right : String) : Prop := SameLetters left.toList right.toList

theorem sameName_iff {left right : String} :
    Text.sameAscii left.toList right.toList = true ↔ SameName left right := Text.sameAscii_iff

instance (left right : String) : Decidable (SameName left right) := decidable_of_iff _ sameName_iff

theorem SameName.length_eq {left right : String} (same : SameName left right) : left.length = right.length := by
  have lengths := List.Forall₂.length_eq same
  rwa [String.length_toList, String.length_toList] at lengths

/-- The same values in the same order under the same names, whatever the case of those in ASCII. -/
def Recased : List Header → List Header → Prop :=
  List.Forall₂ fun field other => SameName field.1 other.1 ∧ field.2 = other.2

section Lookup

variable {headers others : List Header} {name value : String}

theorem header?_cons (field : Header) (headers : List Header) (name : String) :
    header? (field :: headers) name = if SameName field.1 name then some field.2 else header? headers name := by
  rw [header?, List.find?_cons]
  by_cases same : SameName field.1 name
  · rw [sameName_iff.mpr same, if_pos same]
    rfl
  · rw [Bool.eq_false_iff.mpr (mt sameName_iff.mp same), if_neg same]
    rfl

theorem header?_append (front back : List Header) (name : String) :
    header? (front ++ back) name = (header? front name).or (header? back name) := by
  rw [header?, List.find?_append, Option.map_or]
  rfl

theorem header?_eq_none_iff : header? headers name = none ↔ ∀ field ∈ headers, ¬SameName field.1 name := by
  rw [header?, Option.map_eq_none_iff, List.find?_eq_none]
  simp only [sameName_iff]

/-- A field is found exactly if its name matches and no field in front of it has such a name. -/
theorem header?_eq_some_iff : header? headers name = some value ↔
    ∃ (position : Nat) (key : String), headers[position]? = some (key, value) ∧ SameName key name ∧
      ∀ earlier < position, ∀ field : Header, headers[earlier]? = some field → ¬SameName field.1 name := by
  rw [header?, Option.map_eq_some_iff]
  constructor
  · intro found
    obtain ⟨⟨key, held⟩, first, rfl⟩ := found
    obtain ⟨matching, position, bound, here, before⟩ := List.find?_eq_some_iff_getElem.mp first
    refine ⟨position, key, List.getElem?_eq_some_iff.mpr ⟨bound, here⟩, sameName_iff.mp matching, ?_⟩
    intro earlier isBefore field stands same
    obtain ⟨inside, there⟩ := List.getElem?_eq_some_iff.mp stands
    have other := before earlier isBefore
    rw [there, sameName_iff.mpr same] at other
    cases other
  · intro stands
    obtain ⟨position, key, here, same, before⟩ := stands
    obtain ⟨bound, here⟩ := List.getElem?_eq_some_iff.mp here
    refine ⟨(key, value), ?_, rfl⟩
    apply List.find?_eq_some_iff_getElem.mpr
    refine ⟨sameName_iff.mpr same, position, bound, here, ?_⟩
    intro earlier isBefore
    have other := before earlier isBefore _ (List.getElem?_eq_getElem (Nat.lt_trans isBefore bound))
    rw [Bool.eq_false_iff.mpr (mt sameName_iff.mp other)]
    rfl

theorem header?_congr {other : String} (same : SameName name other) :
    header? headers other = header? headers name := by
  induction headers with
  | nil => rfl
  | cons field headers ih =>
      rw [header?_cons, header?_cons, ih]
      exact if_congr (same.symm.congr_right) rfl rfl

theorem header?_recased (recased : Recased headers others) : header? others name = header? headers name := by
  induction recased with
  | nil => rfl
  | @cons field other headers others alike _ ih =>
      obtain ⟨names, values⟩ := alike
      rw [header?_cons, header?_cons, ih, values]
      exact if_congr names.symm.congr_left rfl rfl

/-- Of two fields with different names at most one is what a name asks for. -/
theorem header?_swapped {first second : Header} (apart : ¬SameName first.1 second.1) (front back : List Header)
    (name : String) :
    header? (front ++ second :: first :: back) name = header? (front ++ first :: second :: back) name := by
  rw [header?_append, header?_append]
  congr 1
  simp only [header?_cons]
  by_cases isFirst : SameName first.1 name
  · have notSecond : ¬SameName second.1 name := fun isSecond => apart (isFirst.trans isSecond.symm)
    simp only [if_pos isFirst, if_neg notSecond]
  · simp only [if_neg isFirst]

end Lookup

/-- What a request has under a name. -/
structure LooksUp (request : Request) (name : String) : Prop where
  some_iff : ∀ value, request.header? name = some value ↔
    ∃ (position : Nat) (key : String), request.headers[position]? = some (key, value) ∧ SameName key name ∧
      ∀ earlier < position, ∀ field : Header, request.headers[earlier]? = some field → ¬SameName field.1 name
  none_iff : request.header? name = none ↔ ∀ field ∈ request.headers, ¬SameName field.1 name
  asked : ∀ other, SameName name other → request.header? other = request.header? name
  stored : ∀ headers, Recased request.headers headers →
    { request with headers }.header? name = request.header? name
  appended : ∀ value more, request.header? name = some value →
    { request with headers := request.headers ++ more }.header? name = some value
  swapped : ∀ front first second back, request.headers = front ++ first :: second :: back →
    ¬SameName first.1 second.1 →
      { request with headers := front ++ second :: first :: back }.header? name = request.header? name
  /-- A name that is found has the characters outside ASCII of the name that was asked for, at the same places. -/
  wide : ∀ value, request.header? name = some value → ∃ key, (key, value) ∈ request.headers ∧
    key.length = name.length ∧
      ∀ (place : Nat) (char : Char), 128 ≤ char.toNat →
        (key.toList[place]? = some char ↔ name.toList[place]? = some char)

/-- A name finds the first field with its letters, up to the case of those in ASCII, and nothing if there is none.
The answer stays the same when the case of the name or of the fields is changed, when fields are added behind, and
when fields with different names change places. -/
theorem fields_looked_up (request : Request) (name : String) : LooksUp request name where
  some_iff value := header?_eq_some_iff
  none_iff := header?_eq_none_iff
  asked other same := header?_congr same
  stored headers recased := header?_recased recased
  appended := by
    intro value more found
    change header? (request.headers ++ more) name = some value
    rw [header?_append, show header? request.headers name = some value from found]
    rfl
  swapped := by
    intro front first second back split apart
    change header? _ name = header? request.headers name
    rw [split]
    exact header?_swapped apart front back name
  wide := by
    intro value found
    obtain ⟨position, key, here, same, -⟩ := header?_eq_some_iff.mp found
    exact ⟨key, List.mem_of_getElem? here, same.length_eq, fun place char wide => same.wide_iff wide place⟩

end ScanCheck
