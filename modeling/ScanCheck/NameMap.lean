namespace ScanCheck

/-- Puts an entry into its place; an entry of the same name gives way. -/
def insertEntry {α : Type} (name : String) (value : α) :
    List (String × α) → List (String × α)
  | [] => [(name, value)]
  | (key, old) :: rest =>
    if name < key then (name, value) :: (key, old) :: rest
    else if key < name then (key, old) :: insertEntry name value rest
    else (name, value) :: rest

theorem mem_keys_insertEntry {α : Type} {name key : String} {value : α} :
    ∀ {entries : List (String × α)}, key ∈ (insertEntry name value entries).map (·.1) →
      key = name ∨ key ∈ entries.map (·.1)
  | [], member => by simpa [insertEntry] using member
  | (other, old) :: rest, member => by
      unfold insertEntry at member
      split at member
      · simpa using member
      · split at member
        · rcases List.mem_cons.mp member with same | later
          · exact .inr (by simp [same])
          · rcases mem_keys_insertEntry later with same | later
            · exact .inl same
            · exact .inr (by simp only [List.map_cons, List.mem_cons]; exact .inr later)
        · rcases List.mem_cons.mp member with same | later
          · exact .inl same
          · exact .inr (by simp only [List.map_cons, List.mem_cons]; exact .inr later)

def Ascending {α : Type} (entries : List (String × α)) : Prop :=
  (entries.map (·.1)).Pairwise (· < ·)

instance {α : Type} (entries : List (String × α)) : Decidable (Ascending entries) :=
  inferInstanceAs (Decidable (List.Pairwise _ _))

theorem ascending_insertEntry {α : Type} {name : String} {value : α} :
    ∀ {entries : List (String × α)}, Ascending entries → Ascending (insertEntry name value entries)
  | [], _ => by simp [Ascending, insertEntry]
  | (key, old) :: rest, ascending => by
      obtain ⟨above, restAscending⟩ := List.pairwise_cons.mp ascending
      unfold insertEntry
      split
      · rename_i before
        refine List.pairwise_cons.mpr ⟨?_, ascending⟩
        intro other member
        rcases List.mem_cons.mp member with same | later
        · exact same ▸ before
        · exact String.lt_trans before (above other later)
      · split
        · rename_i after
          refine List.pairwise_cons.mpr ⟨?_, ascending_insertEntry restAscending⟩
          intro other member
          rcases mem_keys_insertEntry member with same | later
          · exact same ▸ after
          · exact above other later
        · rename_i notBefore notAfter
          have same : name = key :=
            String.le_antisymm (String.not_lt.mp notAfter) (String.not_lt.mp notBefore)
          exact List.pairwise_cons.mpr ⟨fun other member => same ▸ above other member, restAscending⟩

structure NameMap (α : Type) where
  entries : List (String × α)
  ascending : Ascending entries

namespace NameMap

variable {α : Type}

instance [DecidableEq α] : DecidableEq (NameMap α) := fun left right =>
  decidable_of_iff (left.entries = right.entries) (by cases left; cases right; simp)

def empty : NameMap α := ⟨[], .nil⟩

def insert (map : NameMap α) (name : String) (value : α) : NameMap α :=
  ⟨insertEntry name value map.entries, ascending_insertEntry map.ascending⟩

/-- The map of a list of bindings, where a later one takes the place of an earlier one. -/
def ofList (bindings : List (String × α)) : NameMap α :=
  bindings.foldl (fun map binding => map.insert binding.1 binding.2) empty

def get? (map : NameMap α) (name : String) : Option α := map.entries.lookup name

def contains (map : NameMap α) (name : String) : Bool := (map.get? name).isSome

end NameMap

end ScanCheck
