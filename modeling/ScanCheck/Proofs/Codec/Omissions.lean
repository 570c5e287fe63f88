import ScanCheck.Proofs.Codec.Values
import ScanCheck.Proofs.Codec.Views

namespace ScanCheck

open Json (Acts Begins Blank Delimited Enclosed Listed MemberText Reader Takes WellFormed Yields)

variable {α V : Type} {types : List Type}

/-- The values under a name, in the order in which they stand. -/
def valuesOf (name : String) (members : List (String × V)) : List V :=
  members.filterMap fun member => if member.1 = name then some member.2 else none

@[simp] theorem valuesOf_cons_self (name : String) (value : V) (members : List (String × V)) :
    valuesOf name ((name, value) :: members) = value :: valuesOf name members :=
  List.filterMap_cons_some (if_pos rfl)

theorem valuesOf_cons_of_ne {name key : String} (other : key ≠ name) (value : V) (members : List (String × V)) :
    valuesOf name ((key, value) :: members) = valuesOf name members :=
  List.filterMap_cons_none (if_neg other)

theorem lookup_eq_head?_valuesOf (name : String) (members : List (String × V)) :
    members.lookup name = (valuesOf name members).head? := by
  induction members with
  | nil => rfl
  | cons member members ih =>
      obtain ⟨key, value⟩ := member
      by_cases same : key = name
      · subst same
        rw [valuesOf_cons_self, List.lookup_cons, BEq.rfl, List.head?_cons]
      · rw [valuesOf_cons_of_ne same, List.lookup_cons, beq_false_of_ne (Ne.symm same), ih]

/-- A slot before and after the values that are given for it. -/
inductive Filled (written : α → V → Prop) : Option α → List V → Option α → Prop
  | kept {slot : Option α} : Filled written slot [] slot
  | once {value : α} {item : V} (own : written value item) : Filled written none [item] (some value)

/-- A value is given once, or none is given. -/
abbrev Given (written : α → V → Prop) (items : List V) (value : Option α) : Prop := Filled written none items value

theorem Filled.nil_eq {written : α → V → Prop} {slot after : Option α} (filled : Filled written slot [] after) :
    slot = after := by
  cases filled
  rfl

theorem Filled.of_cons {written : α → V → Prop} {slot after : Option α} {item : V} {items : List V}
    (filled : Filled written slot (item :: items) after) :
    slot = none ∧ items = [] ∧ ∃ value, after = some value ∧ written value item := by
  cases filled with
  | once own => exact ⟨rfl, rfl, _, rfl, own⟩

theorem Filled.mono {written other : α → V → Prop} (weaker : ∀ value item, written value item → other value item)
    {slot after : Option α} {items : List V} (filled : Filled written slot items after) :
    Filled other slot items after := by
  cases filled with
  | kept => exact .kept
  | once own => exact .once (weaker _ _ own)

theorem Given.map {β : Type} {written : α → V → Prop} {other : β → V → Prop} (change : α → β)
    (each : ∀ value item, written value item → other (change value) item) {items : List V} {value : Option α}
    (given : Given written items value) : Given other items (value.map change) := by
  cases given with
  | kept => exact .kept
  | once own => exact .once (each _ _ own)

/-- Which values a codec makes of what stands in a text or in a table. -/
abbrev Acceptance (V : Type) := (α : Type) → Codec α → α → V → Prop

/-- A codec reads a value from a text, whatever stands around the text. -/
def ReadsText : Acceptance Bytes := fun _ codec value text => Begins text ∧ Yields codec.read text (.ok value)

def TakesToml : Acceptance Toml := fun _ codec value toml => codec.ofToml toml = some value

theorem Field.eq_unknown_of_under {σ τ : Type} {field : Field σ} {wrap : σ → τ}
    (unknown : field.under wrap = .unknown) : field = .unknown := by
  cases field with
  | unknown => rfl
  | repeated => cases unknown
  | value read => cases unknown

namespace Fields

section Accepted

variable (accepts : Acceptance V)

/-- The slots of the fields before and after the members of an object. -/
def Fills : {types : List Type} → Fields types → Slots types → List (String × V) → Slots types → Prop
  | [], .nil, _, _, _ => True
  | _ :: _, .cons name codec _ rest, (slot, slots), members, (after, behind) =>
    Filled (accepts _ codec) slot (valuesOf name members) after ∧ rest.Fills slots members behind

/-- The items of an array give the fields their values one after another, up to those that are left out. -/
def InOrder : {types : List Type} → Fields types → List V → Row types → Prop
  | [], .nil, items, _ => items = []
  | _ :: _, .cons _ _ missing rest, [], (value, row) => missing = some value ∧ rest.InOrder [] row
  | _ :: _, .cons _ codec _ rest, item :: items, (value, row) => accepts _ codec value item ∧ rest.InOrder items row

variable {accepts}

theorem eq_of_fills_nil (fields : Fields types) {slots after : Slots types}
    (fills : fields.Fills accepts slots [] after) : slots = after := by
  induction fields with
  | nil => rfl
  | cons name codec missing rest ih =>
      obtain ⟨own, others⟩ := fills
      exact Prod.ext own.nil_eq (ih others)

theorem Fills.other {fields : Fields types} {slots after : Slots types} {key : String} {value : V}
    {members : List (String × V)} (fills : fields.Fills accepts slots ((key, value) :: members) after)
    (unknown : key ∉ fields.names) : fields.Fills accepts slots members after := by
  induction fields with
  | nil => trivial
  | cons name codec missing rest ih =>
      obtain ⟨own, others⟩ := fills
      obtain ⟨apart, unknown⟩ := not_or.mp (mt List.mem_cons.mpr unknown)
      rw [valuesOf_cons_of_ne apart] at own
      exact ⟨own, ih others unknown⟩

end Accepted

/-- A field with a default takes what is given, and else its default. -/
theorem complete_default (name : String) (codec : Codec α) (usual : α) {rest : Fields types} (slot : Option α)
    {slots : Slots types} {row : Row types} (behind : rest.complete slots = some row) :
    (Fields.cons name codec (some usual) rest).complete (slot, slots) = some (slot.getD usual, row) := by
  rw [Views.complete_pair, Option.or_some, behind]
  rfl

theorem notMem_of_unknown (fields : Fields types) {slots : Slots types} {key : String}
    (unknown : fields.field slots key = .unknown) : key ∉ fields.names := by
  induction fields with
  | nil => exact List.not_mem_nil
  | @cons _ _ name codec missing rest ih =>
      obtain ⟨slot, slots⟩ := slots
      by_cases same : key = name
      · subst same
        cases slot with
        | none =>
            rw [field_cons_self] at unknown
            cases unknown
        | some value =>
            rw [Views.field_cons_taken] at unknown
            cases unknown
      · rw [field_cons_of_ne same] at unknown
        exact fun known => (List.mem_cons.mp known).elim same (ih (Field.eq_unknown_of_under unknown))

/-- The first member fills its slot if there is one for it. The induction is on the fields. -/
theorem Fills.answers {fields : Fields types} (distinct : fields.names.Nodup) {slots after : Slots types}
    {key : String} {text : Bytes} {members : List (String × Bytes)}
    (fills : fields.Fills ReadsText slots ((key, text) :: members) after) :
    ∃ between, (fields.field slots key).Answers slots text (some between) ∧
      fields.Fills ReadsText between members after := by
  induction fields with
  | nil => exact ⟨slots, rfl, trivial⟩
  | @cons _ _ name codec missing rest ih =>
      obtain ⟨slot, slots⟩ := slots
      obtain ⟨after, ends⟩ := after
      obtain ⟨own, others⟩ := fills
      obtain ⟨fresh, distinct⟩ := List.nodup_cons.mp distinct
      by_cases same : key = name
      · subst same
        rw [valuesOf_cons_self] at own
        obtain ⟨rfl, alone, value, rfl, -, read⟩ := own.of_cons
        refine ⟨(some value, slots), ?_, ?_, others.other fresh⟩
        · rw [field_cons_self]
          exact read.map fun value => (some value, slots)
        · rw [alone]
          exact .kept
      · obtain ⟨between, answers, behind⟩ := ih distinct others
        rw [valuesOf_cons_of_ne same] at own
        refine ⟨(slot, between), ?_, own, behind⟩
        rw [field_cons_of_ne same]
        exact answers.under fun slots => (slot, slots)

theorem Fills.takes {fields : Fields types} (distinct : fields.names.Nodup) {slots after : Slots types}
    {members : List (String × Bytes)} (fills : fields.Fills ReadsText slots members after)
    (others : ∀ member ∈ members, member.1 ∉ fields.names → WellFormed member.2) :
    Takes fields.onMember Eq slots members (.ok after) := by
  induction members generalizing slots with
  | nil =>
      rw [fields.eq_of_fills_nil fills]
      exact .done
  | cons member members ih =>
      obtain ⟨key, value⟩ := member
      obtain ⟨own, others⟩ := List.forall_mem_cons.mp others
      obtain ⟨between, answers, behind⟩ := fills.answers distinct
      have acts := answers.acts fun unknown => own (fields.notMem_of_unknown unknown)
      refine .taken (fun text same => ?_) (ih behind others)
      cases same
      exact acts

theorem nextItem_first {text rest : Bytes} (begins : Begins text) {gap : Bytes} (blank : Blank gap) :
    nextItem true (gap ++ (text ++ rest)) = .ok (some (text ++ rest)) := by
  obtain ⟨byte, tail, rfl, visible, inside⟩ := begins
  rw [nextItem, List.cons_append, Json.skipBlanks_gap blank visible]
  simp only [if_neg inside, if_true]

theorem nextItem_comma {text rest : Bytes} (begins : Begins text) {gap inner : Bytes} (blank : Blank gap)
    (innerBlank : Blank inner) :
    nextItem false (gap ++ 44 :: (inner ++ (text ++ rest))) = .ok (some (text ++ rest)) := by
  obtain ⟨byte, tail, rfl, visible, inside⟩ := begins
  rw [nextItem, Json.skipBlanks_gap blank rfl]
  simp [Json.skipBlanks_gap innerBlank visible, inside]

theorem nextItem_none (first : Bool) {gap : Bytes} (blank : Blank gap) (rest : Bytes) :
    nextItem first (gap ++ 93 :: rest) = .ok none := by
  rw [nextItem, Json.skipBlanks_gap blank rfl]
  rfl

/-- No item is left, so every field that is still to come has a value of its own. -/
theorem fromArray_ended (fields : Fields types) {row : Row types} (inOrder : fields.InOrder ReadsText [] row)
    (first : Bool) {gap : Bytes} (blank : Blank gap) (rest : Bytes) :
    fields.fromArray first (gap ++ 93 :: rest) = .ok (row, rest) := by
  induction fields with
  | nil =>
      rw [fromArray, closeArray, Json.skipBlanks_gap blank rfl]
      rfl
  | cons name codec missing others ih =>
      obtain ⟨value, row⟩ := row
      obtain ⟨own, behind⟩ := inOrder
      simp [fromArray, nextItem_none first blank, bind, Except.bind, own, ih behind]

theorem fromArray_taken (name : String) {codec : Codec α} (missing : Option α) {others : Fields types} {first : Bool}
    {bytes item behind rest : Bytes} {value : α} {row : Row types} (next : nextItem first bytes = .ok (some item))
    (read : codec.read item = .ok (value, behind)) (following : others.fromArray false behind = .ok (row, rest)) :
    (Fields.cons name codec missing others).fromArray first bytes = .ok ((value, row), rest) := by
  change (nextItem first bytes >>= _) = _
  rw [next]
  change (codec.read item >>= _) = _
  rw [read]
  change (others.fromArray false behind >>= _) = _
  rw [following]
  rfl

theorem fromArray_listed (fields : Fields types) {row : Row types} {items : List Bytes}
    (inOrder : fields.InOrder ReadsText items row) {text : Bytes} (listed : Listed Eq 93 items text) (rest : Bytes) :
    fields.fromArray false (text ++ rest) = .ok (row, rest) := by
  induction fields generalizing items text with
  | nil =>
      cases inOrder
      cases listed with
      | close blank =>
          rw [List.append_assoc]
          exact fromArray_ended .nil rfl false blank rest
  | cons name codec missing others ih =>
      cases listed with
      | close blank =>
          rw [List.append_assoc]
          exact fromArray_ended _ inOrder false blank rest
      | next blank innerBlank written listed =>
          cases written
          simp only [List.append_assoc, List.cons_append]
          obtain ⟨value, row⟩ := row
          obtain ⟨⟨begins, read⟩, behind⟩ := inOrder
          have first := read.front (listed.delimited rfl rest)
          exact fromArray_taken name missing (nextItem_comma begins blank innerBlank) first (ih behind listed)

theorem fromArray_enclosed (fields : Fields types) {row : Row types} {items : List Bytes}
    (inOrder : fields.InOrder ReadsText items row) {text : Bytes} (enclosed : Enclosed Eq 93 items text)
    (rest : Bytes) : fields.fromArray true (text ++ rest) = .ok (row, rest) := by
  cases enclosed with
  | empty blank =>
      rw [List.append_assoc]
      exact fromArray_ended _ inOrder true blank rest
  | filled blank written listed =>
      cases written
      simp only [List.append_assoc]
      cases fields with
      | nil => cases inOrder
      | cons name codec missing others =>
          obtain ⟨value, row⟩ := row
          obtain ⟨⟨begins, read⟩, behind⟩ := inOrder
          have first := read.front (listed.delimited rfl rest)
          have following := fromArray_listed others behind listed rest
          exact fromArray_taken name missing (nextItem_first begins blank) first following

theorem Fills.fromTable {fields : Fields types} {entries : List (String × Toml)} {slots : Slots types}
    {row : Row types} (fills : fields.Fills TakesToml fields.free entries slots)
    (complete : fields.complete slots = some row) : fields.fromTable entries = some row := by
  induction fields with
  | nil => rfl
  | @cons _ _ name codec missing rest ih =>
      obtain ⟨slot, slots⟩ := slots
      obtain ⟨own, others⟩ := fills
      rw [Views.complete_pair] at complete
      obtain ⟨value, known, behind⟩ := Option.bind_eq_some_iff.mp complete
      obtain ⟨row, done, rfl⟩ := Option.map_eq_some_iff.mp behind
      have behind := ih others done
      simp only [Fields.fromTable, lookup_eq_head?_valuesOf, behind]
      generalize valuesOf name entries = items at own
      cases own with
      | kept =>
          have left : missing = some value := known
          rw [left]
          rfl
      | @once _ item accepted =>
          cases known
          have taken : codec.ofToml item = some value := accepted
          change (codec.ofToml item).bind _ = _
          rw [taken]
          rfl

theorem fromItems_inOrder (fields : Fields types) {row : Row types} {items : List Toml}
    (inOrder : fields.InOrder TakesToml items row) : fields.fromItems items = some row := by
  induction fields generalizing items with
  | nil => rfl
  | cons name codec missing rest ih =>
      obtain ⟨value, row⟩ := row
      cases items with
      | nil =>
          obtain ⟨own, behind⟩ := inOrder
          change missing.bind (fun value => (rest.fromItems []).bind fun row => some (value, row)) = _
          rw [own, Option.bind_some, ih behind]
          rfl
      | cons item items =>
          obtain ⟨own, behind⟩ := inOrder
          have taken : codec.ofToml item = some value := own
          change (codec.ofToml item).bind (fun value => (rest.fromItems items).bind fun row => some (value, row)) = _
          rw [taken, Option.bind_some, ih behind]
          rfl

end Fields

namespace Codec

section Records

variable {fields : Fields types} {row : Row types} (ofRow : Row types → α) (toRow : α → Row types)

theorem record_object (distinct : fields.names.Nodup) {members : List (String × Bytes)} {slots : Slots types}
    (fills : fields.Fills ReadsText fields.free members slots) (complete : fields.complete slots = some row)
    (others : ∀ member ∈ members, member.1 ∉ fields.names → WellFormed member.2) {inner : Bytes}
    (enclosed : Enclosed (MemberText Eq) 125 members inner) :
    ReadsText α (.record fields ofRow toRow) (ofRow row) (123 :: inner) := by
  refine ⟨⟨123, inner, rfl, rfl, by decide⟩, ?_⟩
  have read : Yields fields.read (123 :: inner) (.ok row) := by
    intro gap rest blank _
    have members := Json.members_enclosed (fills.takes distinct others) enclosed rest
    rw [List.cons_append, Fields.read, Json.skipBlanks_gap blank rfl]
    change fields.fromObject (inner ++ rest) = _
    simp [Fields.fromObject, members, Except.map, bind, Except.bind, complete]
  exact read.map ofRow

theorem record_array {items : List Bytes} (inOrder : fields.InOrder ReadsText items row) {inner : Bytes}
    (enclosed : Enclosed Eq 93 items inner) :
    ReadsText α (.record fields ofRow toRow) (ofRow row) (91 :: inner) := by
  refine ⟨⟨91, inner, rfl, rfl, by decide⟩, ?_⟩
  have read : Yields fields.read (91 :: inner) (.ok row) := by
    intro gap rest blank _
    rw [List.cons_append, Fields.read, Json.skipBlanks_gap blank rfl]
    exact fields.fromArray_enclosed inOrder enclosed rest
  exact read.map ofRow

theorem record_table {entries : List (String × Toml)} {slots : Slots types}
    (fills : fields.Fills TakesToml fields.free entries slots) (complete : fields.complete slots = some row)
    (others : ∀ entry ∈ entries, entry.1 ∉ fields.names → entry.2.passable = true) :
    TakesToml α (.record fields ofRow toRow) (ofRow row) (.table entries) := by
  have passed : (entries.all fun entry => fields.names.contains entry.1 || entry.2.passable) = true := by
    refine List.all_eq_true.mpr fun entry member => ?_
    rw [Bool.or_eq_true, List.contains_iff_mem]
    exact or_iff_not_imp_left.mpr (others entry member)
  change (fields.ofToml (.table entries)).map ofRow = _
  rw [Fields.ofToml, if_pos passed, fills.fromTable complete, Option.map_some]

theorem record_items {items : List Toml} (inOrder : fields.InOrder TakesToml items row) :
    TakesToml α (.record fields ofRow toRow) (ofRow row) (.array items) := by
  change (fields.fromItems items).map ofRow = _
  rw [fields.fromItems_inOrder inOrder, Option.map_some]

end Records

/-- Bindings and the members that hold them. -/
def Binds (accepts : Acceptance V) (codec : Codec α) : List (String × α) → List (String × V) → Prop :=
  List.Forall₂ fun binding member => binding.1 = member.1 ∧ accepts α codec binding.2 member.2

theorem nameMap_object {codec : Codec α} {bindings : List (String × α)} {members : List (String × Bytes)}
    (binds : Binds ReadsText codec bindings members) {inner : Bytes}
    (enclosed : Enclosed (MemberText Eq) 125 members inner) :
    ReadsText _ codec.nameMap (.ofList bindings) (123 :: inner) := by
  refine ⟨⟨123, inner, rfl, rfl, by decide⟩, fun gap rest blank _ => ?_⟩
  unfold nameMap
  dsimp only
  rw [List.cons_append, Json.skipBlanks_gap blank rfl]
  have read : List.Forall₂ (codec.ReadFrom Eq) bindings members :=
    binds.imp fun binding member own => ⟨own.1, fun text same => same ▸ own.2.2⟩
  exact Json.members_enclosed (takes_bindings read .empty) enclosed rest

theorem mapM_bindings {codec : Codec α} {bindings : List (String × α)} {entries : List (String × Toml)}
    (binds : Binds TakesToml codec bindings entries) :
    (entries.mapM fun entry => (codec.ofToml entry.2).map fun value => (entry.1, value)) = some bindings := by
  induction binds with
  | nil => rfl
  | @cons binding entry bindings entries own others ih =>
      obtain ⟨name, value⟩ := binding
      obtain ⟨rfl, taken⟩ := own
      have known : codec.ofToml entry.2 = some value := taken
      rw [List.mapM_cons, known, ih]
      rfl

theorem nameMap_table {codec : Codec α} {bindings : List (String × α)} {entries : List (String × Toml)}
    (binds : Binds TakesToml codec bindings entries) :
    TakesToml _ codec.nameMap (.ofList bindings) (.table entries) := by
  have taken := mapM_bindings binds
  unfold TakesToml nameMap
  dsimp only
  rw [taken]
  rfl

end Codec

end ScanCheck
