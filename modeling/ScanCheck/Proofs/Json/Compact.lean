import ScanCheck.Proofs.Codec.Values
import ScanCheck.Proofs.Json.Members

namespace ScanCheck.Json

def children : Json → List Json
  | .array items => items
  | .object members => members.map (·.2)
  | _ => []

/-- A property of a value and of everything inside it. -/
inductive Every (holds : Json → Prop) : Json → Prop
  | intro {value : Json} (here : holds value) (inside : ∀ child ∈ value.children, Every holds child) : Every holds value

def IsCollection (value : Json) : Prop := value.items? ≠ none ∨ value.members? ≠ none

/-- Arrays and objects nest at most so deep. -/
def NestsWithin : (depth : Nat) → Json → Prop
  | 0, value => ¬ value.IsCollection
  | depth + 1, value => ∀ child ∈ value.children, NestsWithin depth child

/-- The numbers are integers of 64 bits, and no name is given twice. -/
structure Plain (value : Json) : Prop where
  integral : ∀ number, value = .number number → ∃ amount, number = .integer amount ∧ Number.IsIntegral amount
  distinct : ∀ members, value = .object members → (members.map (·.1)).Nodup

theorem Every.leaf {holds : Json → Prop} {value : Json} (here : holds value) (none : value.children = []) :
    Every holds value :=
  .intro here (by simp [none])

theorem plain_null : Every Plain .null :=
  .leaf ⟨by simp, by simp⟩ rfl

theorem plain_text (text : String) : Every Plain (.text text) :=
  .leaf ⟨by simp, by simp⟩ rfl

theorem plain_integer {amount : Int} (integral : Number.IsIntegral amount) : Every Plain (.number (.integer amount)) :=
  .leaf ⟨by simp [integral], by simp⟩ rfl

theorem plain_array {items : List Json} (inside : ∀ item ∈ items, Every Plain item) : Every Plain (.array items) :=
  .intro ⟨by simp, by simp⟩ inside

theorem plain_object {members : List (String × Json)} (distinct : (members.map (·.1)).Nodup)
    (inside : ∀ member ∈ members, Every Plain member.2) : Every Plain (.object members) := by
  refine .intro ⟨by simp, by rintro _ ⟨⟩; exact distinct⟩ fun child within => ?_
  obtain ⟨member, stands, rfl⟩ := List.mem_map.mp within
  exact inside member stands

def IsSorted (value : Json) : Prop := ∀ members, value = .object members → Ascending members

theorem NestsWithin.deeper {depth : Nat} {value : Json} (nests : NestsWithin depth value) :
    NestsWithin (depth + 1) value := by
  induction depth generalizing value with
  | zero =>
      intro child inside
      cases value with
      | array items => exact absurd (.inl (by simp [items?])) nests
      | object members => exact absurd (.inr (by simp [members?])) nests
      | _ => cases inside
  | succ depth ih => exact fun child inside => ih (nests child inside)

theorem NestsWithin.mono {depth deep : Nat} {value : Json} (nests : NestsWithin depth value) (below : depth ≤ deep) :
    NestsWithin deep value := by
  induction below with
  | refl => exact nests
  | step _ ih => exact ih.deeper

theorem exists_depth {children : List Json} (each : ∀ child ∈ children, ∃ depth, NestsWithin depth child) :
    ∃ depth, ∀ child ∈ children, NestsWithin depth child := by
  induction children with
  | nil => exact ⟨0, by simp⟩
  | cons child children ih =>
      obtain ⟨⟨own, ownNests⟩, others⟩ := List.forall_mem_cons.mp each
      obtain ⟨depth, nests⟩ := ih others
      refine ⟨max own depth, List.forall_mem_cons.mpr ⟨ownNests.mono (by omega), fun other inside => ?_⟩⟩
      exact (nests other inside).mono (by omega)

theorem Every.nests {holds : Json → Prop} {value : Json} (every : Every holds value) :
    ∃ depth, NestsWithin depth value := by
  induction every with
  | intro _ _ ih =>
      obtain ⟨depth, nests⟩ := exists_depth ih
      exact ⟨depth + 1, nests⟩

theorem printItems_eq (items : List Json) : printItems items = items.map print := by
  induction items with
  | nil => rfl
  | cons item items ih => rw [printItems, ih, List.map_cons]

theorem printMembers_eq (members : List (String × Json)) :
    printMembers members = members.map fun member => (member.1, member.2.print) := by
  induction members with
  | nil => rfl
  | cons member members ih => rw [printMembers, ih, List.map_cons]

theorem spellsWith_integer {allowed : Option (Json → Bytes → Prop)} {amount : Int}
    (integral : Number.IsIntegral amount) :
    SpellsWith allowed (.number (.integer amount)) (Utf8.encode (printInt amount)) := by
  rw [printInt]
  split
  · rename_i below
    have size : (if true then -(amount.natAbs : Int) else amount.natAbs) = amount := by
      rw [if_pos rfl]
      omega
    have written := @numberText_digits true amount.natAbs (by omega) (size.symm ▸ integral)
    rw [size] at written
    exact .negative written
  · have size : (if false then -(amount.natAbs : Int) else amount.natAbs) = amount := by
      rw [if_neg (by decide)]
      omega
    have written := @numberText_digits false amount.natAbs (by simp) (size.symm ▸ integral)
    rw [size] at written
    exact .positive written

/-- A scalar is written as one of its texts, whatever may be nested elsewhere. -/
theorem spellsWith_scalar {allowed : Option (Json → Bytes → Prop)} {value : Json} (scalar : ¬ value.IsCollection)
    (plain : Plain value) : SpellsWith allowed value (Utf8.encode value.print) := by
  cases value with
  | null => exact .null
  | flag value => cases value <;> first | exact .yes | exact .no
  | number number =>
      obtain ⟨amount, rfl, integral⟩ := plain.integral number rfl
      exact spellsWith_integer integral
  | text value =>
      rw [print, encode_quote]
      exact .text (quotes_quoted value)
  | array items => exact absurd (.inl (by simp [items?])) scalar
  | object members => exact absurd (.inr (by simp [members?])) scalar

theorem spells_print {depth : Nat} {value : Json} (plain : Every Plain value) (nests : NestsWithin depth value) :
    Spells depth value (Utf8.encode value.print) := by
  induction depth generalizing value with
  | zero =>
      obtain ⟨here, -⟩ := plain
      exact spellsWith_scalar nests here
  | succ depth ih =>
      obtain ⟨here, inside⟩ := plain
      have children : ∀ child ∈ value.children, Spells depth child (Utf8.encode child.print) :=
        fun child within => ih (inside child within) (nests child within)
      cases value with
      | array items =>
          rw [print, encode_bracketed, printItems_eq]
          exact .array rfl (enclosed_commas children)
      | object members =>
          rw [print, encode_braced, printMembers_eq, List.map_map]
          exact .object rfl (enclosed_commas fun member within =>
            memberText_encode (children _ (List.mem_map_of_mem within)) member.1)
      | _ => exact spellsWith_scalar (by simp [IsCollection, items?, members?]) here

theorem mem_insertEntry {name : String} {value : Json} {entries : List (String × Json)} {entry : String × Json}
    (inside : entry ∈ insertEntry name value entries) : entry = (name, value) ∨ entry ∈ entries := by
  induction entries with
  | nil => exact .inl (List.mem_singleton.mp inside)
  | cons first entries ih =>
      obtain ⟨key, old⟩ := first
      rw [insertEntry] at inside
      split at inside
      · simpa using inside
      split at inside
      · rcases List.mem_cons.mp inside with rfl | behind
        · exact .inr List.mem_cons_self
        · exact (ih behind).imp_right (List.mem_cons_of_mem _)
      · rcases List.mem_cons.mp inside with rfl | behind
        · exact .inl rfl
        · exact .inr (List.mem_cons_of_mem _ behind)

theorem mem_foldl_putSorted {members entries : List (String × Json)} {entry : String × Json}
    (inside : entry ∈ members.foldl putSorted entries) :
    entry ∈ entries ∨ ∃ member ∈ members, entry = (member.1, member.2.sorted) := by
  induction members generalizing entries with
  | nil => exact .inl inside
  | cons member members ih =>
      rcases ih inside with put | ⟨other, within, rfl⟩
      · rcases mem_insertEntry put with rfl | old
        · exact .inr ⟨member, List.mem_cons_self, rfl⟩
        · exact .inl old
      · exact .inr ⟨other, List.mem_cons_of_mem _ within, rfl⟩

theorem mem_children_sorted {value child : Json} (inside : child ∈ value.sorted.children) :
    ∃ original ∈ value.children, child = original.sorted := by
  cases value with
  | array items =>
      rw [sorted_array] at inside
      obtain ⟨item, within, rfl⟩ := List.mem_map.mp inside
      exact ⟨item, within, rfl⟩
  | object members =>
      rw [← object_foldl] at inside
      obtain ⟨entry, within, rfl⟩ := List.mem_map.mp inside
      obtain none | ⟨member, stands, rfl⟩ := mem_foldl_putSorted within
      · cases none
      · exact ⟨member.2, List.mem_map_of_mem stands, rfl⟩
  | _ => cases inside

theorem sorted_mem_children {value child : Json} (plain : Plain value) (inside : child ∈ value.children) :
    child.sorted ∈ value.sorted.children := by
  cases value with
  | array items =>
      rw [sorted_array]
      exact List.mem_map_of_mem inside
  | object members =>
      rw [← object_foldl]
      obtain ⟨member, within, rfl⟩ := List.mem_map.mp inside
      have distinct := plain.distinct members rfl
      have unrepeated : Unrepeated (members.map (·.1)) members := unrepeated_of_nodup _ distinct
      have known : member.1 ∈ members.map (·.1) := List.mem_map_of_mem within
      have stands : members.lookup member.1 = some member.2 := (lookup_eq_some_iff_mem unrepeated known).mpr within
      have found := lookup_foldl_putSorted unrepeated known []
      rw [stands] at found
      obtain ⟨front, back, split, -⟩ := List.lookup_eq_some_iff.mp found
      exact List.mem_map.mpr ⟨(member.1, member.2.sorted), by simp [split], rfl⟩
  | _ => cases inside

theorem isCollection_sorted {value : Json} : value.sorted.IsCollection ↔ value.IsCollection := by
  cases value with
  | array items => simp [IsCollection, items?]
  | object members => simp [IsCollection, ofMembers, members?]
  | _ => exact Iff.rfl

theorem NestsWithin.sorted {depth : Nat} {value : Json} (nests : NestsWithin depth value) :
    NestsWithin depth value.sorted := by
  induction depth generalizing value with
  | zero => exact mt isCollection_sorted.mp nests
  | succ depth ih =>
      intro child inside
      obtain ⟨original, within, rfl⟩ := mem_children_sorted inside
      exact ih (nests original within)

theorem NestsWithin.of_sorted {depth : Nat} {value : Json} (plain : Every Plain value)
    (nests : NestsWithin depth value.sorted) : NestsWithin depth value := by
  induction depth generalizing value with
  | zero => exact mt isCollection_sorted.mpr nests
  | succ depth ih =>
      intro child inside
      obtain ⟨here, each⟩ := plain
      exact ih (each child inside) (nests _ (sorted_mem_children here inside))

theorem foldl_putSorted_ascending {entries members : List (String × Json)} (ascending : Ascending (entries ++ members))
    (same : ∀ member ∈ members, member.2.sorted = member.2) : members.foldl putSorted entries = entries ++ members := by
  induction members generalizing entries with
  | nil => exact (List.append_nil _).symm
  | cons member members ih =>
      obtain ⟨own, others⟩ := List.forall_mem_cons.mp same
      have above : ∀ key ∈ entries.map (·.1), key < member.1 := by
        rw [Ascending, List.map_append] at ascending
        exact fun key inside => (List.pairwise_append.mp ascending).2.2 key inside _ List.mem_cons_self
      have put : putSorted entries member = entries ++ [member] := by
        rw [putSorted, own, insertEntry_above above]
      rw [List.foldl_cons, put, ih (by rwa [List.append_assoc]) others, List.append_assoc]
      rfl

/-- A value whose objects are sorted is not changed by sorting. -/
theorem sorted_eq_self {value : Json} (every : Every IsSorted value) : value.sorted = value := by
  induction every with
  | @intro value here _ ih =>
      cases value with
      | array items =>
          have each : items.map sorted = items.map id := List.map_congr_left ih
          rw [sorted_array, each, List.map_id]
      | object members =>
          have kept := @foldl_putSorted_ascending [] _ (here members rfl) fun member inside =>
            ih member.2 (List.mem_map_of_mem inside)
          rw [← object_foldl, kept, List.nil_append]
      | _ => rfl

theorem Listed.each {α : Type} {entry : α → Bytes → Prop} {closing : UInt8} {values : List α} {text : Bytes}
    (listed : Listed entry closing values text) : ∀ value ∈ values, ∃ text, entry value text := by
  induction listed with
  | close blank => simp
  | next blank innerBlank written others ih => exact List.forall_mem_cons.mpr ⟨⟨_, written⟩, ih⟩

theorem Enclosed.each {α : Type} {entry : α → Bytes → Prop} {closing : UInt8} {values : List α} {text : Bytes}
    (enclosed : Enclosed entry closing values text) : ∀ value ∈ values, ∃ text, entry value text := by
  cases enclosed with
  | empty blank => simp
  | filled blank written others => exact List.forall_mem_cons.mpr ⟨⟨_, written⟩, others.each⟩

theorem Spells.nests {depth : Nat} {tree : Json} {text : Bytes} (spells : Spells depth tree text) :
    NestsWithin depth tree := by
  induction depth generalizing tree text with
  | zero => cases spells <;> simp_all [NestsWithin, IsCollection, items?, members?]
  | succ depth ih =>
      intro child inside
      cases spells with
      | array within enclosed =>
          cases within
          obtain ⟨text, spells⟩ := enclosed.each child inside
          exact ih spells
      | object within enclosed =>
          cases within
          obtain ⟨member, stands, rfl⟩ := List.mem_map.mp inside
          obtain ⟨text, written⟩ := enclosed.each member stands
          cases written with
          | named quotes blank innerBlank written => exact ih written
      | _ => cases inside

theorem utf8_compact (value : Json) : utf8 value.compact = Utf8.encode value.print := by
  rw [utf8, compact, String.toList_ofList]

theorem written_compact {value : Json} (plain : Every Plain value) (nests : NestsWithin deepest value) :
    Written value (utf8 value.compact) := by
  refine ⟨[], _, [], ?_, blank_nil, blank_nil, spells_print plain nests⟩
  rw [List.nil_append, List.append_nil, utf8_compact]

/-- If the reader took the text of a value for a tree that nests less deep, both would have the same sorted
value, and sorting does not change how deep a value nests. -/
theorem nests_of_written {value tree : Json} (plain : Every Plain value)
    (written : Written tree (utf8 value.compact)) : NestsWithin deepest value := by
  rw [utf8_compact] at written
  obtain ⟨before, text, after, split, blank, behind, spells⟩ := written
  obtain ⟨depth, nests⟩ := plain.nests
  have printed := (spells_print plain nests).mono (Nat.le_max_left depth deepest)
  have taken := spells.mono (Nat.le_max_right depth deepest)
  have whole : before ++ (text ++ after) = [] ++ (Utf8.encode value.print ++ []) := by
    rw [List.nil_append, List.append_nil, split]
  obtain ⟨same, -⟩ :=
    taken.unambiguous printed blank blank_nil (fun _ => behind.delimited) (fun _ => delimited_nil) whole
  exact .of_sorted plain (same ▸ spells.nests.sorted)

end ScanCheck.Json
