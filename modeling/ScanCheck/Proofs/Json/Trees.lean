import ScanCheck.Json.Reader
import ScanCheck.Proofs.Json.Enclosed

/-!
# The texts of values

A text spells a tree, in which the members of an object stand as they are written: in any order, and with
names that may be given again. The reader accepts exactly the texts of trees that do not nest too deep, and
makes of a tree the value in which every object is sorted.
-/

namespace ScanCheck.Json

mutual

/-- The value of a tree: of the members of an object with the same name the last one counts. -/
def sorted : Json → Json
  | .array items => .array (sortedItems items)
  | .object members => ofMembers (sortedMembers members)
  | .null => .null
  | .flag value => .flag value
  | .number value => .number value
  | .text value => .text value

def sortedItems : List Json → List Json
  | [] => []
  | item :: rest => item.sorted :: sortedItems rest

def sortedMembers : List (String × Json) → List (String × Json)
  | [] => []
  | (name, value) :: rest => (name, value.sorted) :: sortedMembers rest

end

@[simp] theorem sorted_array (items : List Json) : (Json.array items).sorted = .array (items.map sorted) := by
  have each : sortedItems items = items.map sorted := by
    induction items with
    | nil => rfl
    | cons item items ih => rw [sortedItems, ih, List.map_cons]
  rw [sorted, each]

@[simp] theorem sorted_object (members : List (String × Json)) :
    (Json.object members).sorted = ofMembers (members.map fun member => (member.1, member.2.sorted)) := by
  have each : sortedMembers members = members.map fun member => (member.1, member.2.sorted) := by
    induction members with
    | nil => rfl
    | cons member members ih => rw [sortedMembers, ih, List.map_cons]
  rw [sorted, each]

/-- What an object makes of a member of a tree. -/
def putSorted (entries : List (String × Json)) (member : String × Json) : List (String × Json) :=
  insertEntry member.1 member.2.sorted entries

theorem object_foldl (members : List (String × Json)) :
    Json.object (members.foldl putSorted []) = (Json.object members).sorted := by
  rw [sorted_object, ofMembers, List.foldl_map]
  rfl

def IsNumber : Json → Prop
  | .number _ => True
  | _ => False

/-- The texts of a value whose items and members, if it may have any, are those of `nested`. -/
inductive SpellsWith (nested : Option (Json → Bytes → Prop)) : Json → Bytes → Prop
  | null : SpellsWith nested .null (110 :: nullTail)
  | yes : SpellsWith nested (.flag true) (116 :: trueTail)
  | no : SpellsWith nested (.flag false) (102 :: falseTail)
  | negative {text : Bytes} {number : Number} (written : NumberText true text number) :
      SpellsWith nested (.number number) (45 :: text)
  | positive {text : Bytes} {number : Number} (written : NumberText false text number) :
      SpellsWith nested (.number number) text
  | text {text : Bytes} {value : String} (quotes : Quotes text value) :
      SpellsWith nested (.text value) (34 :: (text ++ [34]))
  | array {entry : Json → Bytes → Prop} {items : List Json} {text : Bytes} (within : nested = some entry)
      (enclosed : Enclosed entry 93 items text) : SpellsWith nested (.array items) (91 :: text)
  | object {entry : Json → Bytes → Prop} {members : List (String × Json)} {text : Bytes} (within : nested = some entry)
      (enclosed : Enclosed (MemberText entry) 125 members text) : SpellsWith nested (.object members) (123 :: text)

/-- The texts of a tree whose arrays and objects nest at most `depth` deep. -/
def Spells : (depth : Nat) → Json → Bytes → Prop
  | 0 => SpellsWith none
  | depth + 1 => SpellsWith (some (Spells depth))

/-- The whole body is the text of a tree, blanks around it aside. -/
def Written (tree : Json) (body : Bytes) : Prop :=
  ∃ before text after, body = before ++ (text ++ after) ∧ Blank before ∧ Blank after ∧ Spells deepest tree text

theorem NumberText.leads {negative : Bool} {text : Bytes} {number : Number}
    (written : NumberText negative text number) : ∃ byte tail, text = byte :: tail ∧ isDigit byte = true := by
  obtain ⟨whole, -, -, -⟩ := written
  exact whole.leads _

theorem SpellsWith.begins {nested : Option (Json → Bytes → Prop)} {tree : Json} {text : Bytes}
    (spells : SpellsWith nested tree text) : Begins text := by
  cases spells with
  | positive written =>
      obtain ⟨byte, tail, rfl, digit⟩ := written.leads
      obtain ⟨visible, inside, -⟩ := isDigit_visible digit
      exact ⟨byte, tail, rfl, visible, inside⟩
  | _ => exact ⟨_, _, rfl, rfl, by decide⟩

theorem Spells.begins {depth : Nat} {tree : Json} {text : Bytes} (spells : Spells depth tree text) : Begins text := by
  cases depth <;> exact SpellsWith.begins spells

theorem SpellsWith.mono {entry other : Json → Bytes → Prop} (weaker : ∀ tree text, entry tree text → other tree text)
    {tree : Json} {text : Bytes} {allowed : Option (Json → Bytes → Prop)} (same : ∀ found ∈ allowed, found = entry)
    (spells : SpellsWith allowed tree text) : SpellsWith (some other) tree text := by
  cases spells with
  | null => exact .null
  | yes => exact .yes
  | no => exact .no
  | negative written => exact .negative written
  | positive written => exact .positive written
  | text quotes => exact .text quotes
  | array within enclosed =>
      obtain rfl := same _ within
      exact .array rfl (enclosed.mono weaker)
  | object within enclosed =>
      obtain rfl := same _ within
      exact .object rfl (enclosed.mono (MemberText.mono weaker))

/-- A text may nest deeper than its tree does. -/
theorem Spells.deeper {depth : Nat} {tree : Json} {text : Bytes} (spells : Spells depth tree text) :
    SpellsWith (some (Spells depth)) tree text := by
  induction depth generalizing tree text with
  | zero => exact @SpellsWith.mono (Spells 0) _ (fun _ _ => id) _ _ _ (by simp) spells
  | succ depth ih => exact SpellsWith.mono (fun _ _ => ih) (by simp) spells

theorem Spells.mono {depth deep : Nat} {tree : Json} {text : Bytes} (spells : Spells depth tree text)
    (below : depth ≤ deep) : Spells deep tree text := by
  induction below with
  | refl => exact spells
  | step _ ih => exact ih.deeper

theorem Reader.map_eq_ok {α β : Type} {reader : Reader α} {change : α → β} {bytes rest : Bytes} {result : β}
    (read : reader.map change bytes = .ok (result, rest)) :
    ∃ value, reader bytes = .ok (value, rest) ∧ result = change value := by
  rw [Reader.map] at read
  cases inner : reader bytes with
  | error fault => simp [inner] at read
  | ok value =>
      rw [inner] at read
      cases read
      exact ⟨value.1, rfl, rfl⟩

theorem expectWord_map_sound {word bytes rest : Bytes} {tree value : Json}
    (read : (expectWord word bytes).map (fun rest => (tree, rest)) = .ok (value, rest)) :
    bytes = word ++ rest ∧ value = tree := by
  cases inner : expectWord word bytes with
  | error fault =>
      rw [inner] at read
      cases read
  | ok behind =>
      rw [inner] at read
      cases read
      exact ⟨expectWord_sound inner, rfl⟩

/-- A reader of nested values takes the texts that nested values have, and nothing else. -/
inductive Nests : Option (Reader Json) → Option (Json → Bytes → Prop) → Prop
  | none : Nests none none
  | some {item : Reader Json} {entry : Json → Bytes → Prop} (begins : ∀ tree text, entry tree text → Begins text)
      (yields : ∀ tree text, entry tree text → Yields item text (.ok tree.sorted)) (sound : Sound item entry sorted) :
      Nests (some item) (some entry)

/-- What the reader does with the members of an object. -/
def intoEntries (item : Reader Json) : OnMember (List (String × Json)) := fun entries name =>
  .ok (item.map fun value => insertEntry name value entries)

theorem intoEntries_acts {item : Reader Json} {tree : Json} {text : Bytes} (yields : Yields item text (.ok tree.sorted))
    (entries : List (String × Json)) (name : String) :
    Acts (intoEntries item) entries name text (.ok (putSorted entries (name, tree))) :=
  yields.map fun value => insertEntry name value entries

theorem intoEntries_sound {item : Reader Json} {entry : Json → Bytes → Prop} (sound : Sound item entry sorted) :
    SoundMembers (intoEntries item) entry putSorted := by
  intro entries name bytes after rest read
  obtain ⟨value, inner, rfl⟩ := Reader.map_eq_ok read
  obtain ⟨gap, tree, text, rfl, blank, written, rfl⟩ := sound _ _ _ inner
  exact ⟨gap, tree, text, rfl, blank, written, rfl⟩

/-- Only behind a number does it matter what follows. -/
theorem valueWith_spelled {nested : Option (Reader Json)} {allowed : Option (Json → Bytes → Prop)}
    (nests : Nests nested allowed) {tree : Json} {text : Bytes} (spells : SpellsWith allowed tree text)
    {gap : Bytes} (blank : Blank gap) (rest : Bytes) (delimited : tree.IsNumber → Delimited rest) :
    valueWith nested (gap ++ (text ++ rest)) = .ok (tree.sorted, rest) := by
  cases spells with
  | null | yes | no =>
      rw [valueWith, List.cons_append, skipBlanks_gap blank rfl]
      simp [expectWord_append, sorted, Except.map]
  | negative written =>
      rw [valueWith, List.cons_append, skipBlanks_gap blank rfl]
      simp [Reader.map, numberTail_append written (delimited trivial), sorted]
  | positive written =>
      have read := numberTail_append written (delimited trivial)
      obtain ⟨byte, tail, rfl, digit⟩ := written.leads
      obtain ⟨visible, -, -⟩ := isDigit_visible digit
      rw [List.cons_append] at read
      rw [valueWith, List.cons_append, skipBlanks_gap blank visible]
      simp [ne_of_isDigit 110 digit rfl, ne_of_isDigit 116 digit rfl, ne_of_isDigit 102 digit rfl,
        ne_of_isDigit 45 digit rfl, digit, Reader.map, read, sorted]
  | text quotes =>
      rw [valueWith, List.cons_append, skipBlanks_gap blank rfl, List.append_assoc, List.singleton_append]
      simp [isDigit, Reader.map, stringTail_append quotes, sorted]
  | @array entry items text within enclosed =>
      subst within
      obtain - | ⟨begins, yields, -⟩ := nests
      have read := items_enclosed begins (fun item _ => yields item) enclosed rest
      have values : items.mapM (fun item => (.ok item.sorted : Except Fault Json)) = .ok (items.map sorted) :=
        List.mapM_pure
      rw [values] at read
      rw [valueWith, List.cons_append, skipBlanks_gap blank rfl]
      simp [isDigit, Reader.map, read, Except.map]
  | @object entry members text within enclosed =>
      subst within
      obtain - | ⟨begins, yields, -⟩ := nests
      have read : Json.members (intoEntries _) [] (text ++ rest) = _ :=
        members_enclosed (takes_foldlM (fun named _ entries text written =>
          intoEntries_acts (yields named.2 text written) entries named.1) []) enclosed rest
      have values : members.foldlM (fun state named => (.ok (putSorted state named) : Except Fault _)) [] =
          .ok (members.foldl putSorted []) := List.foldlM_pure
      rw [values] at read
      unfold intoEntries at read
      rw [valueWith, List.cons_append, skipBlanks_gap blank rfl, ← object_foldl]
      simp [isDigit, Reader.map, read, Except.map]

/-- The cases are those of the reader, by the first byte that is not blank. -/
theorem valueWith_sound {nested : Option (Reader Json)} {allowed : Option (Json → Bytes → Prop)}
    (nests : Nests nested allowed) : Sound (valueWith nested) (SpellsWith allowed) sorted := by
  intro bytes value rest read
  obtain ⟨gap, blank, split⟩ := exists_gap bytes
  rw [valueWith] at read
  split at read
  · cases read
  rename_i byte tail shown
  rw [shown] at split
  split at read
  · rename_i null
    obtain ⟨rfl, rfl⟩ := expectWord_map_sound read
    exact ⟨gap, .null, _, by rw [split, null]; rfl, blank, .null, rfl⟩
  split at read
  · rename_i yes
    obtain ⟨rfl, rfl⟩ := expectWord_map_sound read
    exact ⟨gap, .flag true, _, by rw [split, yes]; rfl, blank, .yes, rfl⟩
  split at read
  · rename_i no
    obtain ⟨rfl, rfl⟩ := expectWord_map_sound read
    exact ⟨gap, .flag false, _, by rw [split, no]; rfl, blank, .no, rfl⟩
  split at read
  · rename_i minus
    obtain ⟨number, inner, rfl⟩ := Reader.map_eq_ok read
    obtain ⟨text, rfl, written⟩ := numberTail_sound inner
    exact ⟨gap, .number number, _, by rw [split, minus]; rfl, blank, .negative written, rfl⟩
  split at read
  · obtain ⟨number, inner, rfl⟩ := Reader.map_eq_ok read
    obtain ⟨text, front, written⟩ := numberTail_sound inner
    exact ⟨gap, .number number, _, by rw [split, front], blank, .positive written, rfl⟩
  split at read
  · rename_i quote
    obtain ⟨value, inner, rfl⟩ := Reader.map_eq_ok read
    obtain ⟨text, rfl, quotes⟩ := stringTail_sound inner
    refine ⟨gap, .text value, _, ?_, blank, .text quotes, rfl⟩
    rw [split, quote, List.cons_append, List.append_assoc]
    rfl
  split at read
  · rename_i bracket
    obtain - | ⟨-, -, sound⟩ := nests
    · cases read
    · obtain ⟨values, inner, rfl⟩ := Reader.map_eq_ok read
      obtain ⟨trees, text, rfl, enclosed, rfl⟩ := items_sound sound inner
      exact ⟨gap, .array trees, _, by rw [split, bracket]; rfl, blank, .array rfl enclosed, (sorted_array trees).symm⟩
  split at read
  · rename_i brace
    obtain - | ⟨-, -, sound⟩ := nests
    · cases read
    · obtain ⟨values, inner, rfl⟩ := Reader.map_eq_ok read
      obtain ⟨trees, text, rfl, enclosed, rfl⟩ := members_sound (intoEntries_sound sound) inner
      exact ⟨gap, .object trees, _, by rw [split, brace]; rfl, blank, .object rfl enclosed, object_foldl trees⟩
  · cases read

theorem valueWithin_nests (depth : Nat) : Nests (some (valueWithin depth)) (some (Spells depth)) := by
  induction depth with
  | zero =>
      exact .some (fun _ _ => SpellsWith.begins)
        (fun _ _ spells _ rest blank delimited => valueWith_spelled .none spells blank rest fun _ => delimited)
        (valueWith_sound .none)
  | succ depth ih =>
      exact .some (fun _ _ => SpellsWith.begins)
        (fun _ _ spells _ rest blank delimited => valueWith_spelled ih spells blank rest fun _ => delimited)
        (valueWith_sound ih)

theorem valueWithin_spelled {depth : Nat} {tree : Json} {text : Bytes} (spells : Spells depth tree text)
    {gap : Bytes} (blank : Blank gap) (rest : Bytes) (delimited : tree.IsNumber → Delimited rest) :
    valueWithin depth (gap ++ (text ++ rest)) = .ok (tree.sorted, rest) := by
  cases depth with
  | zero => exact valueWith_spelled .none spells blank rest delimited
  | succ depth => exact valueWith_spelled (valueWithin_nests depth) spells blank rest delimited

/-- Where a text stands in front, the reader tells by itself where it ends. -/
theorem Spells.unambiguous {depth : Nat} {tree other : Json} {text otherText gap otherGap rest otherRest : Bytes}
    (spells : Spells depth tree text) (otherSpells : Spells depth other otherText) (blank : Blank gap)
    (otherBlank : Blank otherGap) (delimited : tree.IsNumber → Delimited rest)
    (otherDelimited : other.IsNumber → Delimited otherRest)
    (same : gap ++ (text ++ rest) = otherGap ++ (otherText ++ otherRest)) :
    tree.sorted = other.sorted ∧ rest = otherRest := by
  have read := valueWithin_spelled spells blank rest delimited
  rw [same, valueWithin_spelled otherSpells otherBlank otherRest otherDelimited] at read
  exact Prod.mk.inj (Except.ok.inj read.symm)

theorem valueWithin_sound (depth : Nat) : Sound (valueWithin depth) (Spells depth) sorted := by
  obtain - | ⟨-, -, sound⟩ := valueWithin_nests depth
  exact sound

theorem blank_of_skipBlanks {bytes : Bytes} (empty : skipBlanks bytes = []) : Blank bytes := by
  obtain ⟨gap, blank, split⟩ := exists_gap bytes
  rw [empty, List.append_nil] at split
  exact split ▸ blank

/-- The bodies that are accepted without a declared type are the texts of trees. -/
theorem readAll_value_iff {body : Bytes} {value : Json} :
    readAll Json.value body = .ok value ↔ ∃ tree, Written tree body ∧ value = tree.sorted := by
  constructor
  · intro read
    obtain ⟨⟨result, rest⟩, inner, ends⟩ := exists_of_bind read
    obtain ⟨before, tree, text, rfl, blank, spells, rfl⟩ := valueWithin_sound _ _ _ _ inner
    dsimp only at ends
    split at ends
    · rename_i empty
      cases ends
      exact ⟨tree, ⟨before, text, rest, rfl, blank, blank_of_skipBlanks empty, spells⟩, rfl⟩
    · cases ends
  · rintro ⟨tree, ⟨before, text, after, rfl, blank, behind, spells⟩, rfl⟩
    refine readAll_yields (fun _ rest gap delimited => ?_) blank behind
    exact valueWithin_spelled spells gap rest fun _ => delimited

end ScanCheck.Json
