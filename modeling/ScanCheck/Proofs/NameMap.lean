import Mathlib.Data.String.Basic
import ScanCheck.NameMap

namespace ScanCheck

variable {α : Type}

theorem lookup_cons_ite (name key : String) (value : α) (entries : List (String × α)) :
    ((key, value) :: entries).lookup name = if name = key then some value else entries.lookup name := by
  by_cases same : name = key
  · simp [same]
  · rw [List.lookup_cons, beq_false_of_ne same, if_neg same]

theorem lookup_insertEntry (name key : String) (value : α) (entries : List (String × α)) :
    (insertEntry key value entries).lookup name = if name = key then some value else entries.lookup name := by
  induction entries with
  | nil => rw [insertEntry, lookup_cons_ite]
  | cons entry entries ih =>
      obtain ⟨other, old⟩ := entry
      rw [insertEntry]
      split
      · rw [lookup_cons_ite]
      split
      · rename_i notBefore behind
        have apart : other ≠ key := fun same => String.lt_irrefl key (same ▸ behind)
        rw [lookup_cons_ite, lookup_cons_ite, ih]
        by_cases same : name = key
        · simp [same, apart.symm]
        · simp [same]
      · rename_i notBefore notBehind
        have same : key = other := String.le_antisymm (String.not_lt.mp notBehind) (String.not_lt.mp notBefore)
        rw [same, lookup_cons_ite, lookup_cons_ite]
        split <;> rfl

/-- Names in front of an entry are less than its own, and those behind it are greater. -/
theorem ascending_split {before after : List (String × α)} {entry : String × α}
    (ascending : Ascending (before ++ entry :: after)) :
    (∀ other ∈ before, other.1 < entry.1) ∧ ∀ other ∈ after, entry.1 < other.1 := by
  rw [Ascending, List.map_append, List.map_cons] at ascending
  obtain ⟨-, behind, apart⟩ := List.pairwise_append.mp ascending
  constructor
  · intro other member
    exact apart other.1 (List.mem_map_of_mem member) entry.1 List.mem_cons_self
  · intro other member
    exact (List.pairwise_cons.mp behind).1 other.1 (List.mem_map_of_mem member)

theorem lookup_eq_some_iff {entries : List (String × α)} (ascending : Ascending entries) {name : String}
    {value : α} : entries.lookup name = some value ↔ (name, value) ∈ entries := by
  rw [List.lookup_eq_some_iff]
  constructor
  · intro found
    obtain ⟨before, after, split, -⟩ := found
    simp [split]
  · intro member
    obtain ⟨before, after, split⟩ := List.append_of_mem member
    rw [split] at ascending
    refine ⟨before, after, split, ?_⟩
    intro other front
    exact bne_iff_ne.mpr (ne_of_gt ((ascending_split ascending).1 other front))

theorem insertEntry_above {name : String} {value : α} {entries : List (String × α)}
    (above : ∀ key ∈ entries.map (·.1), key < name) :
    insertEntry name value entries = entries ++ [(name, value)] := by
  induction entries with
  | nil => rfl
  | cons entry entries ih =>
      obtain ⟨key, old⟩ := entry
      obtain ⟨first, others⟩ := List.forall_mem_cons.mp above
      rw [insertEntry, if_neg (String.lt_asymm first), if_pos first, ih others, List.cons_append]

namespace NameMap

variable (map : NameMap α)

@[simp] theorem get?_insert (name key : String) (value : α) :
    (map.insert key value).get? name = if name = key then some value else map.get? name :=
  lookup_insertEntry name key value map.entries

theorem get?_foldl_insert (name : String) (bindings : List (String × α)) :
    (bindings.foldl (fun map binding => map.insert binding.1 binding.2) map).get? name =
      (bindings.reverse.lookup name).or (map.get? name) := by
  induction bindings generalizing map with
  | nil => rfl
  | cons binding bindings ih =>
      obtain ⟨key, value⟩ := binding
      rw [List.foldl_cons, ih, get?_insert, List.reverse_cons, List.lookup_append, lookup_cons_ite, List.lookup_nil,
        Option.or_assoc]
      split <;> rfl

/-- Of bindings of the same name the last one counts. -/
theorem get?_ofList (name : String) (bindings : List (String × α)) :
    (ofList bindings).get? name = bindings.reverse.lookup name := by
  rw [ofList, get?_foldl_insert]
  exact Option.or_none

theorem contains_ofList (name : String) (bindings : List (String × α)) :
    (ofList bindings).contains name = true ↔ name ∈ bindings.map (·.1) := by
  rw [contains, get?_ofList, List.mem_map]
  constructor
  · intro found
    obtain ⟨value, known⟩ := Option.isSome_iff_exists.mp found
    obtain ⟨before, after, split, -⟩ := List.lookup_eq_some_iff.mp known
    have member : (name, value) ∈ bindings.reverse := split ▸ List.mem_append_right before List.mem_cons_self
    exact ⟨(name, value), List.mem_reverse.mp member, rfl⟩
  · intro known
    obtain ⟨binding, member, rfl⟩ := known
    cases found : bindings.reverse.lookup binding.1 with
    | some value => rfl
    | none =>
        have apart := List.lookup_eq_none_iff.mp found binding (List.mem_reverse.mpr member)
        simp at apart

/-- The entries of a map are put in behind those that it has already. The induction is on the entries that are still to
come. -/
theorem foldl_insert_entries (whole : NameMap α) {entries : List (String × α)}
    (splits : whole.entries = map.entries ++ entries) :
    entries.foldl (fun map binding => map.insert binding.1 binding.2) map = whole := by
  induction entries generalizing map with
  | nil =>
      obtain ⟨entries, ascending⟩ := whole
      rw [List.append_nil] at splits
      cases splits
      rfl
  | cons entry entries ih =>
      have above : ∀ key ∈ map.entries.map (·.1), key < entry.1 := by
        have ascending := whole.ascending
        rw [Ascending, splits, List.map_append] at ascending
        exact fun key member => (List.pairwise_append.mp ascending).2.2 key member entry.1 List.mem_cons_self
      have grown : (map.insert entry.1 entry.2).entries = map.entries ++ [entry] := insertEntry_above above
      apply ih (map.insert entry.1 entry.2)
      rw [splits, grown, List.append_assoc]
      rfl

theorem ofList_entries : ofList map.entries = map := foldl_insert_entries empty map rfl

theorem get?_eq_some_iff_mem {name : String} {value : α} :
    map.get? name = some value ↔ (name, value) ∈ map.entries := lookup_eq_some_iff map.ascending

end NameMap

end ScanCheck
