import ScanCheck.Proofs.Json.Trees
import ScanCheck.Proofs.NameMap

namespace ScanCheck.Json

def text? : Json → Option String
  | .text value => some value
  | _ => none

def items? : Json → Option (List Json)
  | .array items => some items
  | _ => none

def members? : Json → Option (List (String × Json))
  | .object members => some members
  | _ => none

def member? (value : Json) (name : String) : Option Json := value.members?.bind (·.lookup name)

def textAt? (value : Json) (name : String) : Option String := (value.member? name).bind text?

def itemsAt? (value : Json) (name : String) : Option (List Json) := (value.member? name).bind items?

theorem member?_object (members : List (String × Json)) (name : String) :
    (Json.object members).member? name = members.lookup name := rfl

/-- None of the names is given to two members. -/
def Unrepeated (names : List String) (members : List (String × Json)) : Prop :=
  (members.map (·.1)).Pairwise fun first second => first ∈ names → first ≠ second

instance (names : List String) (members : List (String × Json)) : Decidable (Unrepeated names members) :=
  inferInstanceAs (Decidable (List.Pairwise _ _))

theorem unrepeated_of_nodup (names : List String) {members : List (String × Json)}
    (distinct : (members.map (·.1)).Nodup) : Unrepeated names members := by
  refine List.Pairwise.imp ?_ distinct
  intro first second apart _
  exact apart

theorem lookup_of_fresh {key : String} {members : List (String × Json)} (fresh : key ∉ members.map (·.1)) :
    members.lookup key = none := by
  refine List.lookup_eq_none_iff.mpr fun member inside => ?_
  rw [bne_iff_ne]
  rintro rfl
  exact fresh (List.mem_map_of_mem inside)

theorem lookup_eq_some_iff_mem {names : List String} {members : List (String × Json)}
    (unrepeated : Unrepeated names members) {name : String} (known : name ∈ names) {value : Json} :
    members.lookup name = some value ↔ (name, value) ∈ members := by
  induction members with
  | nil => simp
  | cons member members ih =>
      obtain ⟨key, tree⟩ := member
      obtain ⟨fresh, unrepeated⟩ := List.pairwise_cons.mp unrepeated
      rw [lookup_cons_ite]
      by_cases same : name = key
      · subst same
        have absent : (name, value) ∉ members := fun again => fresh name (List.mem_map_of_mem again) known rfl
        simp [absent, eq_comm]
      · simp [same, ih unrepeated]

/-- Among the members of an object, sorting keeps the values of all names that are not repeated. -/
theorem lookup_foldl_putSorted {names : List String} {members : List (String × Json)}
    (unrepeated : Unrepeated names members) {name : String} (known : name ∈ names) (entries : List (String × Json)) :
    (members.foldl putSorted entries).lookup name = ((members.lookup name).map sorted).or (entries.lookup name) := by
  induction members generalizing entries with
  | nil => simp
  | cons member members ih =>
      obtain ⟨key, tree⟩ := member
      obtain ⟨fresh, unrepeated⟩ := List.pairwise_cons.mp unrepeated
      rw [List.foldl_cons, ih unrepeated, putSorted, lookup_insertEntry, lookup_cons_ite]
      by_cases same : name = key
      · subst same
        have absent : members.lookup name = none :=
          lookup_of_fresh fun again => fresh name again known rfl
        simp [absent]
      · simp [same]

theorem member?_sorted {names : List String} {members : List (String × Json)} (unrepeated : Unrepeated names members)
    {name : String} (known : name ∈ names) :
    (Json.object members).sorted.member? name = (members.lookup name).map sorted := by
  rw [← object_foldl, member?_object, lookup_foldl_putSorted unrepeated known]
  simp

theorem text?_sorted (tree : Json) : tree.sorted.text? = tree.text? := by
  cases tree <;> simp [sorted, ofMembers, text?]

theorem items?_sorted (tree : Json) : tree.sorted.items? = tree.items?.map (·.map sorted) := by
  cases tree with
  | array items => simp [items?]
  | object members => simp [sorted, ofMembers, items?]
  | _ => rfl

section

variable {names : List String} {members : List (String × Json)} (unrepeated : Unrepeated names members) {name : String}
  (known : name ∈ names)

include unrepeated known

theorem textAt?_sorted : (Json.object members).sorted.textAt? name = (Json.object members).textAt? name := by
  rw [textAt?, textAt?, member?_sorted unrepeated known, member?_object]
  cases members.lookup name with
  | none => rfl
  | some tree => exact text?_sorted tree

theorem itemsAt?_sorted : (Json.object members).sorted.itemsAt? name =
    ((Json.object members).itemsAt? name).map (·.map sorted) := by
  rw [itemsAt?, itemsAt?, member?_sorted unrepeated known, member?_object]
  cases members.lookup name with
  | none => rfl
  | some tree => exact items?_sorted tree

theorem mem_of_itemsAt? {items : List Json} (found : (Json.object members).itemsAt? name = some items) :
    (name, .array items) ∈ members := by
  obtain ⟨tree, stands, list⟩ := Option.bind_eq_some_iff.mp found
  have same : tree = .array items := by
    cases tree with
    | array _ => exact congrArg Json.array (Option.some.inj list)
    | _ => cases list
  exact (lookup_eq_some_iff_mem unrepeated known).mp (same ▸ stands)

end

/-- One change to the members of an object: they are permuted, or a member that is no field is added. -/
inductive Rearranged (names : List String) : List (String × Json) → List (String × Json) → Prop
  | permuted {members others : List (String × Json)} (permutes : members.Perm others) : Rearranged names members others
  | added {front back : List (String × Json)} {name : String} (value : Json) (unknown : name ∉ names) :
      Rearranged names (front ++ back) (front ++ (name, value) :: back)

/-- Two objects give the same fields. -/
structure SameFields (names : List String) (members others : List (String × Json)) : Prop where
  unrepeated : Unrepeated names members ↔ Unrepeated names others
  given : ∀ name ∈ names, ∀ value, (name, value) ∈ members ↔ (name, value) ∈ others

theorem SameFields.symm {names : List String} {members others : List (String × Json)}
    (same : SameFields names members others) : SameFields names others members :=
  ⟨same.unrepeated.symm, fun name known value => (same.given name known value).symm⟩

theorem Rearranged.sameFields {names : List String} {members others : List (String × Json)}
    (rearranged : Rearranged names members others) : SameFields names members others := by
  cases rearranged with
  | permuted permutes =>
      refine ⟨List.Perm.pairwise_iff ?_ (permutes.map _), fun name _ value => permutes.mem_iff⟩
      intro first second apart known same
      exact apart (same ▸ known) same.symm
  | @added front back name value unknown =>
      refine ⟨?_, fun other known tree => ?_⟩
      · simp only [Unrepeated, List.map_append, List.map_cons, List.pairwise_append, List.pairwise_cons,
          List.forall_mem_cons]
        have apart : ∀ first ∈ front.map (·.1), first ∈ names → first ≠ name := fun first _ known same =>
          unknown (same ▸ known)
        have behind : ∀ second ∈ back.map (·.1), name ∈ names → name ≠ second := fun _ _ known => absurd known unknown
        constructor
        · rintro ⟨frontApart, backApart, across⟩
          exact ⟨frontApart, ⟨behind, backApart⟩, fun first inside => ⟨apart first inside, across first inside⟩⟩
        · rintro ⟨frontApart, ⟨-, backApart⟩, across⟩
          exact ⟨frontApart, backApart, fun first inside => (across first inside).2⟩
      · have apart : (other, tree) ≠ (name, value) := fun same => unknown ((Prod.mk.inj same).1 ▸ known)
        simp [apart]

theorem SameFields.lookup {names : List String} {members others : List (String × Json)}
    (same : SameFields names members others) (unrepeated : Unrepeated names members) {name : String}
    (known : name ∈ names) : members.lookup name = others.lookup name := by
  refine Option.ext fun value => ?_
  rw [lookup_eq_some_iff_mem unrepeated known, same.given name known,
    lookup_eq_some_iff_mem (same.unrepeated.mp unrepeated) known]

theorem SameFields.textAt? {names : List String} {members others : List (String × Json)}
    (same : SameFields names members others) (unrepeated : Unrepeated names members) {name : String}
    (known : name ∈ names) : (Json.object members).textAt? name = (Json.object others).textAt? name :=
  congrArg (Option.bind · Json.text?) (same.lookup unrepeated known)

end ScanCheck.Json
