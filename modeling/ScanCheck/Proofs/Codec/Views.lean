import ScanCheck.Proofs.Codec.RoundTrip
import ScanCheck.Proofs.Json.Members
import ScanCheck.Proofs.Json.Skipping

/-!
# Typed reading sees a projection

What a codec makes of the text of a tree depends on the tree alone: it takes a projection of the tree, or
finds it mistyped if there is none. The record of several fields takes the projection of each field from the
member of its name, whatever stands before, between and behind these members, as long as none of them is
given twice.
-/

namespace ScanCheck

open Json (Acts Begins Blank Delimited Enclosed Fault MemberText Spells SpellsWith Yields)

/-- A value of the wanted type, or the fault that there is none. -/
def Json.orMistyped {α : Type} : Option α → Except Fault α
  | some value => .ok value
  | none => .error .mistyped

namespace Json

theorem orMistyped_map {α β : Type} (value : Option α) (change : α → β) :
    (orMistyped value).map change = orMistyped (value.map change) := by
  cases value <;> rfl

theorem mapM_orMistyped {α β : Type} (project : α → Option β) (values : List α) :
    values.mapM (fun value => orMistyped (project value)) = orMistyped (values.mapM project) := by
  induction values with
  | nil => rfl
  | cons value values ih =>
      rw [List.mapM_cons, List.mapM_cons, ih]
      cases project value with
      | none => rfl
      | some first => cases values.mapM project <;> rfl

theorem foldlM_orMistyped {α σ : Type} (put : σ → α → Option σ) (state : σ) (values : List α) :
    values.foldlM (fun state value => orMistyped (put state value)) state = orMistyped (values.foldlM put state) := by
  induction values generalizing state with
  | nil => rfl
  | cons value values ih =>
      rw [List.foldlM_cons, List.foldlM_cons]
      cases put state value with
      | none => rfl
      | some after => exact ih after

end Json

/-- A codec reads the projection of every tree that is clear to it. -/
def Codec.Projects {α : Type} (codec : Codec α) (project : Json → Option α) (clear : Json → Prop) : Prop :=
  ∀ depth tree text, Spells depth tree text → clear tree → Yields codec.read text (Json.orMistyped (project tree))

/-- A text of a value that is no array and no object is refused for its type, once it has been read. -/
theorem Json.mistyped_spelled {depth : Nat} {tree : Json} {text : Bytes} (spells : Spells depth tree text)
    {rest : Bytes} (delimited : Delimited rest) : mistyped (text ++ rest) = .mistyped := by
  obtain ⟨byte, tail, rfl, visible, -⟩ := spells.begins
  rw [mistyped, List.cons_append, skipBlanks_cons byte visible]
  dsimp only
  split
  · rfl
  · rename_i scalar
    have read : valueWith none (byte :: (tail ++ rest)) = .ok (tree.sorted, rest) := by
      have alone : SpellsWith none tree (byte :: tail) := by
        cases spells.deeper with
        | array => exact absurd (.inl rfl) scalar
        | object => exact absurd (.inr rfl) scalar
        | null => exact .null
        | yes => exact .yes
        | no => exact .no
        | negative written => exact .negative written
        | positive written => exact .positive written
        | text quotes => exact .text quotes
      exact valueWith_spelled .none alone blank_nil rest fun _ => delimited
    rw [read]

/-- What the first byte tells of a tree: strings, arrays and objects open with marks of their own. -/
inductive Json.Shape (depth : Nat) : Json → Bytes → Prop
  | text {inner : Bytes} {value : String} (quotes : Json.Quotes inner value) :
      Shape depth (.text value) (34 :: (inner ++ [34]))
  | array {items : List Json} {inner : Bytes} (enclosed : Enclosed (Spells depth) 93 items inner) :
      Shape depth (.array items) (91 :: inner)
  | object {members : List (String × Json)} {inner : Bytes}
      (enclosed : Enclosed (MemberText (Spells depth)) 125 members inner) : Shape depth (.object members) (123 :: inner)
  | scalar {tree : Json} {byte : UInt8} {tail : Bytes} (visible : Json.isBlank byte = false) (quote : byte ≠ 34)
      (bracket : byte ≠ 91) (brace : byte ≠ 123) (noText : tree.text? = none) (noItems : tree.items? = none)
      (noMembers : tree.members? = none) : Shape depth tree (byte :: tail)

theorem Json.Spells.shape {depth : Nat} {tree : Json} {text : Bytes} (spells : Spells depth tree text) :
    Json.Shape depth tree text := by
  cases spells.deeper with
  | null | yes | no | negative => exact .scalar rfl (by decide) (by decide) (by decide) rfl rfl rfl
  | positive written =>
      obtain ⟨byte, tail, rfl, digit⟩ := written.leads
      exact .scalar (isDigit_visible digit).1 (ne_of_isDigit _ digit rfl) (ne_of_isDigit _ digit rfl)
        (ne_of_isDigit _ digit rfl) rfl rfl rfl
  | text quotes => exact .text quotes
  | array within enclosed =>
      cases within
      exact .array enclosed
  | object within enclosed =>
      cases within
      exact .object enclosed

/-- A text that opens with another mark than the wanted one. -/
def Json.OpensOther (mark : UInt8) (text : Bytes) : Prop :=
  ∃ byte tail, text = byte :: tail ∧ Json.isBlank byte = false ∧ byte ≠ mark

namespace Json

variable {depth : Nat} {tree : Json} {text : Bytes}

theorem Shape.text_or (shape : Shape depth tree text) :
    (∃ inner value, tree = .text value ∧ text = 34 :: (inner ++ [34]) ∧ Quotes inner value) ∨
      tree.text? = none ∧ OpensOther 34 text := by
  cases shape with
  | text quotes => exact .inl ⟨_, _, rfl, rfl, quotes⟩
  | array enclosed => exact .inr ⟨rfl, _, _, rfl, rfl, by decide⟩
  | object enclosed => exact .inr ⟨rfl, _, _, rfl, rfl, by decide⟩
  | scalar visible quote bracket brace noText noItems noMembers => exact .inr ⟨noText, _, _, rfl, visible, quote⟩

theorem Shape.array_or (shape : Shape depth tree text) :
    (∃ inner items, tree = .array items ∧ text = 91 :: inner ∧ Enclosed (Spells depth) 93 items inner) ∨
      tree.items? = none ∧ OpensOther 91 text := by
  cases shape with
  | text quotes => exact .inr ⟨rfl, _, _, rfl, rfl, by decide⟩
  | array enclosed => exact .inl ⟨_, _, rfl, rfl, enclosed⟩
  | object enclosed => exact .inr ⟨rfl, _, _, rfl, rfl, by decide⟩
  | scalar visible quote bracket brace noText noItems noMembers => exact .inr ⟨noItems, _, _, rfl, visible, bracket⟩

theorem Shape.object_or (shape : Shape depth tree text) :
    (∃ inner members, tree = .object members ∧ text = 123 :: inner ∧
      Enclosed (MemberText (Spells depth)) 125 members inner) ∨
      tree.members? = none ∧ OpensOther 123 text := by
  cases shape with
  | text quotes => exact .inr ⟨rfl, _, _, rfl, rfl, by decide⟩
  | array enclosed => exact .inr ⟨rfl, _, _, rfl, rfl, by decide⟩
  | object enclosed => exact .inl ⟨_, _, rfl, rfl, enclosed⟩
  | scalar visible quote bracket brace noText noItems noMembers => exact .inr ⟨noMembers, _, _, rfl, visible, brace⟩

end Json

namespace Codec

variable {α : Type}

theorem string_projects : string.Projects Json.text? fun _ => True := by
  intro depth tree text spells _ gap rest blank delimited
  have refused := Json.mistyped_spelled spells delimited
  unfold string
  dsimp only
  obtain ⟨inner, value, rfl, rfl, quotes⟩ | ⟨noText, byte, tail, rfl, visible, other⟩ := spells.shape.text_or
  · rw [List.cons_append, Json.skipBlanks_gap blank rfl, List.append_assoc]
    simp [Json.stringTail_append quotes, Json.text?, Json.orMistyped, Except.map]
  · rw [List.cons_append] at refused ⊢
    rw [Json.skipBlanks_gap blank visible]
    simp [other, refused, noText, Json.orMistyped, Except.map]

theorem Projects.list {codec : Codec α} {project : Json → Option α} {clear : Json → Prop}
    (projects : codec.Projects project clear) :
    codec.list.Projects (fun tree => tree.items?.bind (·.mapM project))
      fun tree => ∀ items, tree = .array items → ∀ item ∈ items, clear item := by
  intro depth tree text spells clears gap rest blank delimited
  have refused := Json.mistyped_spelled spells delimited
  unfold Codec.list
  dsimp only
  obtain ⟨inner, items, rfl, rfl, enclosed⟩ | ⟨noItems, byte, tail, rfl, visible, other⟩ := spells.shape.array_or
  · have read := Json.items_enclosed (fun _ _ => Json.Spells.begins)
      (fun item member text spells => projects depth item text spells (clears items rfl item member)) enclosed rest
    rw [Json.mapM_orMistyped] at read
    rw [List.cons_append, Json.skipBlanks_gap blank rfl]
    simp [read, Json.items?]
  · rw [List.cons_append] at refused ⊢
    rw [Json.skipBlanks_gap blank visible]
    simp [other, refused, noItems, Json.orMistyped, Except.map]

end Codec

/-- How each field of a record is seen in a tree. -/
inductive Views : {types : List Type} → Fields types → Type 1
  | nil : Views .nil
  | cons {α : Type} {types : List Type} {name : String} {codec : Codec α} {missing : Option α} {rest : Fields types}
      (project : Json → Option α) (clear : Json → Prop) (projects : codec.Projects project clear)
      (others : Views rest) : Views (.cons name codec missing rest)

namespace Views

/-- The slots after one more member. -/
def put : {types : List Type} → {fields : Fields types} → Views fields → Slots types → String → Json →
    Option (Slots types)
  | _, _, .nil, _, _, _ => some ()
  | _, _, @cons _ _ name _ _ _ project _ _ others, (slot, slots), key, tree =>
    if key = name then
      match slot with
      | some _ => none
      | none => (project tree).map fun value => (some value, slots)
    else (others.put slots key tree).map fun slots => (slot, slots)

/-- A member is clear if its value is, should it be the member of a field. -/
def Clear : {types : List Type} → {fields : Fields types} → Views fields → String × Json → Prop
  | _, _, .nil, _ => True
  | _, _, @cons _ _ name _ _ _ _ clear _ others, member => (member.1 = name → clear member.2) ∧ others.Clear member

/-- The slot of a field after the member of its name, if there is one. -/
def taken {α : Type} (project : Json → Option α) (slot : Option α) : Option Json → Option (Option α)
  | none => some slot
  | some tree =>
    match slot with
    | some _ => none
    | none => (project tree).map some

/-- The slots after all members, field by field. -/
def fill : {types : List Type} → {fields : Fields types} → Views fields → Slots types → List (String × Json) →
    Option (Slots types)
  | _, _, .nil, _, _ => some ()
  | _, _, @cons _ _ name _ _ _ project _ _ others, (slot, slots), members =>
    (taken project slot (members.lookup name)).bind fun slot =>
      (others.fill slots members).map fun slots => (slot, slots)

/-- The value of a field, by the member of its name. -/
def given {α : Type} (project : Json → Option α) (missing : Option α) : Option Json → Option α
  | none => missing
  | some tree => project tree

/-- The row that the members of an object hold. -/
def row : {types : List Type} → {fields : Fields types} → Views fields → List (String × Json) → Option (Row types)
  | _, _, .nil, _ => some ()
  | _, _, @cons _ _ name _ missing _ project _ _ others, members =>
    (given project missing (members.lookup name)).bind fun value => (others.row members).map fun row => (value, row)

variable {types : List Type} {fields : Fields types}

theorem fill_nil (views : Views fields) (slots : Slots types) : views.fill slots [] = some slots := by
  induction views with
  | nil => rfl
  | cons project clear projects others ih =>
      obtain ⟨slot, slots⟩ := slots
      change (others.fill slots []).map _ = _
      rw [ih]
      rfl

theorem fill_other (views : Views fields) (slots : Slots types) {key : String} (unknown : key ∉ fields.names)
    (tree : Json) (members : List (String × Json)) :
    views.fill slots ((key, tree) :: members) = views.fill slots members := by
  induction views with
  | nil => rfl
  | @cons _ _ name _ _ _ project clear projects others ih =>
      obtain ⟨slot, slots⟩ := slots
      obtain ⟨other, unknown⟩ := not_or.mp (mt List.mem_cons.mpr unknown)
      have passed : (name == key) = false := beq_false_of_ne fun same => other same.symm
      simp only [fill, List.lookup_cons, passed, ih slots unknown]

/-- The first of the members fills its slot, and the others are free for the members behind it. -/
theorem fill_cons (views : Views fields) (slots : Slots types) (distinct : fields.names.Nodup) {key : String}
    {tree : Json} {members : List (String × Json)} (fresh : key ∈ fields.names → key ∉ members.map (·.1)) :
    views.fill slots ((key, tree) :: members) =
      (views.put slots key tree).bind fun slots => views.fill slots members := by
  induction views with
  | nil => rfl
  | @cons _ _ name _ _ rest project clear projects others ih =>
      obtain ⟨slot, slots⟩ := slots
      obtain ⟨apart, others_distinct⟩ := List.nodup_cons.mp distinct
      by_cases same : key = name
      · subst same
        have absent := Json.lookup_of_fresh (fresh List.mem_cons_self)
        simp only [fill, put, List.lookup_cons, BEq.rfl, if_true, fill_other others slots apart]
        cases slot with
        | some value => rfl
        | none =>
            cases seen : project tree with
            | none =>
                rw [taken, seen]
                rfl
            | some value =>
                change _ = (taken project (some value) (members.lookup key)).bind _
                rw [taken, seen, absent]
                rfl
      · have passed : (name == key) = false := beq_false_of_ne fun equal => same equal.symm
        have inner := ih slots others_distinct fun known => fresh (List.mem_cons_of_mem _ known)
        simp only [fill, put, List.lookup_cons, passed, inner, if_neg same]
        cases others.put slots key tree with
        | none => cases taken project slot (members.lookup name) <;> rfl
        | some slots => rfl

theorem foldlM_put (views : Views fields) (slots : Slots types) (distinct : fields.names.Nodup)
    {members : List (String × Json)} (unrepeated : Json.Unrepeated fields.names members) :
    members.foldlM (fun slots member => views.put slots member.1 member.2) slots = views.fill slots members := by
  induction members generalizing slots with
  | nil => exact (views.fill_nil slots).symm
  | cons member members ih =>
      obtain ⟨fresh, unrepeated⟩ := List.pairwise_cons.mp unrepeated
      rw [List.foldlM_cons, fill_cons views slots distinct fun known again => fresh _ again known rfl]
      exact bind_congr fun slots => ih slots unrepeated

theorem complete_pair {α : Type} {name : String} {codec : Codec α} {missing : Option α} (rest : Fields types)
    (slot : Option α) (slots : Slots types) : (Fields.cons name codec missing rest).complete (slot, slots) =
      (slot.or missing).bind fun value => (rest.complete slots).map fun row => (value, row) := by
  simp only [Fields.complete]
  cases slot.or missing <;> cases rest.complete slots <;> rfl

theorem complete_fill (views : Views fields) (members : List (String × Json)) :
    (views.fill fields.free members).bind fields.complete = views.row members := by
  induction views with
  | nil => rfl
  | @cons _ _ name _ missing rest project clear projects others ih =>
      change ((taken project none (members.lookup name)).bind fun slot =>
        (others.fill rest.free members).map fun slots => (slot, slots)).bind _ = _
      rw [row, ← ih]
      cases members.lookup name with
      | none =>
          cases others.fill rest.free members with
          | none => cases missing <;> rfl
          | some slots =>
              refine (complete_pair rest none slots).trans ?_
              cases missing <;> rfl
      | some tree =>
          cases seen : project tree with
          | none =>
              rw [taken, given, seen]
              rfl
          | some value =>
              rw [taken, given, seen]
              cases others.fill rest.free members with
              | none => rfl
              | some slots => exact complete_pair rest (some value) slots

end Views

/-- What a field makes of the text of a member's value. -/
def Field.Answers {σ : Type} (slots : σ) (text : Bytes) (result : Option σ) : Field σ → Prop
  | .unknown => result = some slots
  | .repeated => result = none
  | .value read => Yields read text (Json.orMistyped result)

theorem Field.Answers.under {σ τ : Type} {slots : σ} {text : Bytes} {result : Option σ} {field : Field σ}
    (answers : field.Answers slots text result) (wrap : σ → τ) :
    (field.under wrap).Answers (wrap slots) text (result.map wrap) := by
  cases field with
  | unknown =>
      cases answers
      rfl
  | repeated =>
      cases answers
      rfl
  | value read =>
      have changed := Yields.map answers wrap
      rwa [Json.orMistyped_map] at changed

/-- What a field makes of a value is what its record makes of the member; a value of no field is passed over. -/
theorem Field.Answers.acts {types : List Type} {fields : Fields types} {slots : Slots types} {key : String}
    {text : Bytes} {result : Option (Slots types)} (answers : (fields.field slots key).Answers slots text result)
    (passed : fields.field slots key = .unknown → Json.WellFormed text) :
    Acts fields.onMember slots key text (Json.orMistyped result) := by
  intro gap rest blank delimited
  unfold Fields.onMember
  cases found : fields.field slots key with
  | unknown =>
      rw [found] at answers
      cases answers
      simp [bind, Except.bind, Json.skipValue_append (passed found) blank delimited, Except.map, Json.orMistyped]
  | repeated =>
      rw [found] at answers
      cases answers
      rfl
  | value read =>
      rw [found] at answers
      exact answers gap rest blank delimited

namespace Views

variable {types : List Type} {fields : Fields types}

theorem field_cons_taken {α : Type} (name : String) (codec : Codec α) (missing : Option α) (rest : Fields types)
    (value : α) (slots : Slots types) :
    (Fields.cons name codec missing rest).field (some value, slots) name = .repeated := by
  simp only [Fields.field, if_true]

theorem answers (views : Views fields) (slots : Slots types) {depth : Nat} {key : String} {tree : Json} {text : Bytes}
    (spells : Spells depth tree text) (clear : views.Clear (key, tree)) :
    (fields.field slots key).Answers slots text (views.put slots key tree) := by
  induction views with
  | nil => rfl
  | @cons _ _ name codec _ rest project clears projects others ih =>
      obtain ⟨slot, slots⟩ := slots
      obtain ⟨own, behind⟩ := clear
      by_cases same : key = name
      · subst same
        cases slot with
        | some value =>
            simp only [put, if_true]
            rw [field_cons_taken]
            rfl
        | none =>
            have read := (projects depth tree text spells (own rfl)).map fun value => (some value, slots)
            rw [Json.orMistyped_map] at read
            simp only [put, if_true]
            rw [Fields.field_cons_self]
            exact read
      · simp only [put, if_neg same]
        rw [Fields.field_cons_of_ne same]
        exact (ih slots behind).under fun slots => (slot, slots)

theorem acts (views : Views fields) (slots : Slots types) {depth : Nat} {key : String} {tree : Json} {text : Bytes}
    (spells : Spells depth tree text) (clear : views.Clear (key, tree)) :
    Acts fields.onMember slots key text (Json.orMistyped (views.put slots key tree)) :=
  (views.answers slots spells clear).acts fun _ => spells.wellFormed

end Views

/-- A record is the projection of an object that gives none of its fields twice. From arrays it is read
otherwise. -/
theorem Codec.record_projects {α : Type} {types : List Type} {fields : Fields types} (views : Views fields)
    (distinct : fields.names.Nodup) (ofRow : Row types → α) (toRow : α → Row types) :
    (Codec.record fields ofRow toRow).Projects (fun tree => (tree.members?.bind views.row).map ofRow) fun tree =>
      tree.items? = none ∧ ∀ members, tree = .object members →
        Json.Unrepeated fields.names members ∧ ∀ member ∈ members, views.Clear member := by
  intro depth tree text spells clear
  rw [← Json.orMistyped_map]
  change Yields (fields.read.map ofRow) text _
  refine Yields.map ?_ ofRow
  intro gap rest blank delimited
  have refused := Json.mistyped_spelled spells delimited
  unfold Fields.read
  obtain ⟨inner, members, rfl, rfl, enclosed⟩ | ⟨noMembers, byte, tail, rfl, visible, other⟩ := spells.shape.object_or
  · obtain ⟨unrepeated, clears⟩ := clear.2 members rfl
    have read : Json.members fields.onMember fields.free (inner ++ rest) = _ := Json.members_enclosed
      (Json.takes_foldlM (fun member inside slots text spells => views.acts slots spells (clears member inside)) _)
      enclosed rest
    rw [Json.foldlM_orMistyped, views.foldlM_put fields.free distinct unrepeated] at read
    have complete := views.complete_fill members
    rw [List.cons_append, Json.skipBlanks_gap blank rfl]
    change fields.fromObject _ = _
    simp only [Fields.fromObject, read, Json.members?, Option.bind_some, ← complete]
    cases views.fill fields.free members with
    | none => rfl
    | some slots => cases done : fields.complete slots <;> simp [Json.orMistyped, Except.map, bind, Except.bind, done]
  · have bracket : byte ≠ 91 := by
      rintro rfl
      obtain ⟨inner, items, rfl, -⟩ | ⟨-, other, more, same, -, apart⟩ := spells.shape.array_or
      · cases clear.1
      · cases same
        exact apart rfl
    rw [List.cons_append] at refused ⊢
    rw [Json.skipBlanks_gap blank visible]
    simp [bracket, other, refused, noMembers, Json.orMistyped, Except.map]

end ScanCheck
