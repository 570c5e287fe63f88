import ScanCheck.Proofs.Codec.Omissions

namespace ScanCheck

/-- How values are written, in a text or as values of another kind. -/
structure Format (V : Type) where
  text : String → V → Prop
  flag : Bool → V → Prop
  natural : Nat → V → Prop
  absent : V → Prop
  array : List V → V → Prop
  object : List (String × V) → V → Prop
  /-- What does no harm as long as nobody asks for it. -/
  passed : V → Prop

namespace Format

variable {α V : Type} (format : Format V)

def orAbsent (written : α → V → Prop) : Option α → V → Prop
  | none, item => format.absent item
  | some value, item => written value item

/-- Strings, arrays and objects cannot be taken for an absent value. -/
inductive Present : V → Prop
  | text {value : String} {item : V} (written : format.text value item) : Present item
  | array {items : List V} {item : V} (written : format.array items item) : Present item
  | object {members : List (String × V)} {item : V} (written : format.object members item) : Present item

/-- What codecs accept of a format. Names are told apart in a record, and every member that is no field of it can be
passed over. -/
structure ReadBy (accepts : Acceptance V) : Prop where
  text {value : String} {item : V} (written : format.text value item) : accepts _ .string value item
  flag {value : Bool} {item : V} (written : format.flag value item) : accepts _ .flag value item
  uint16 {value : UInt16} {item : V} (written : format.natural value.toNat item) : accepts _ .uint16 value item
  uint64 {value : UInt64} {item : V} (written : format.natural value.toNat item) : accepts _ .uint64 value item
  absent {α : Type} {item : V} (codec : Codec α) (written : format.absent item) : accepts _ codec.optional none item
  present {α : Type} {codec : Codec α} {value : α} {item : V} (accepted : accepts _ codec value item)
    (present : format.Present item) : accepts _ codec.optional (some value) item
  object {α : Type} {types : List Type} {fields : Fields types} {members : List (String × V)} {slots : Slots types}
    {row : Row types} {item : V} (distinct : fields.names.Nodup)
    (fills : fields.Fills accepts fields.free members slots) (complete : fields.complete slots = some row)
    (others : ∀ member ∈ members, member.1 ∉ fields.names → format.passed member.2)
    (written : format.object members item) (ofRow : Row types → α) (toRow : α → Row types) :
    accepts _ (.record fields ofRow toRow) (ofRow row) item
  array {α : Type} {types : List Type} {fields : Fields types} {items : List V} {row : Row types} {item : V}
    (inOrder : fields.InOrder accepts items row) (written : format.array items item)
    (ofRow : Row types → α) (toRow : α → Row types) : accepts _ (.record fields ofRow toRow) (ofRow row) item
  map {α : Type} {codec : Codec α} {bindings : List (String × α)} {members : List (String × V)} {item : V}
    (binds : Codec.Binds accepts codec bindings members) (written : format.object members item) :
    accepts _ codec.nameMap (.ofList bindings) item

variable {format}

theorem ReadBy.optional {accepts : Acceptance V} (read : format.ReadBy accepts) {codec : Codec α}
    {written : α → V → Prop} (accepted : ∀ value item, written value item → accepts _ codec value item)
    (present : ∀ value item, written value item → format.Present item) (value : Option α) (item : V)
    (given : format.orAbsent written value item) : accepts _ codec.optional value item := by
  cases value with
  | none => exact read.absent codec given
  | some value => exact read.present (accepted value item given) (present value item given)

end Format

/-- The texts of JSON values. A number is written with its digits alone. -/
def Json.format : Format Bytes where
  text value text := ∃ inner, text = 34 :: (inner ++ [34]) ∧ Quotes inner value
  flag value text := text = if value then 116 :: trueTail else 102 :: falseTail
  natural number text := text = Utf8.encode (Decimal.digits number)
  absent text := text = 110 :: nullTail
  array items text := ∃ inner, text = 91 :: inner ∧ Enclosed Eq 93 items inner
  object members text := ∃ inner, text = 123 :: inner ∧ Enclosed (MemberText Eq) 125 members inner
  passed := WellFormed

/-- What is printed for the members of an object is an object of them. -/
theorem Json.format_braced (members : List (String × List Char)) :
    Json.format.object (members.map fun member => (member.1, Utf8.encode member.2)) (Utf8.encode (braced members)) := by
  refine ⟨_, encode_braced members, Enclosed.map (enclosed_commas fun member _ => ?_)⟩
  exact memberText_encode rfl member.1

theorem Json.format_present {text : Bytes} (present : Json.format.Present text) : text.head? ≠ some 110 := by
  obtain ⟨_, rfl, -⟩ | ⟨_, rfl, -⟩ | ⟨_, rfl, -⟩ := present <;> rw [List.head?_cons] <;> decide

theorem Codec.Faithful.readsText {α : Type} {codec : Codec α} (faithful : codec.Faithful) (value : α) :
    ReadsText α codec value (Utf8.encode (codec.print value)) := ⟨faithful.opens value, faithful.reads value⟩

theorem Json.format_read : Json.format.ReadBy ReadsText where
  text written := by
    obtain ⟨inner, rfl, quotes⟩ := written
    exact ⟨⟨34, _, rfl, rfl, by decide⟩, Codec.string_projects 0 _ _ (.text quotes) trivial⟩
  flag {value item} written := by
    have printed : item = Utf8.encode (Codec.flag.print value) := by
      rw [written]
      cases value <;> rfl
    exact printed ▸ Codec.flag_faithful.readsText value
  uint16 written := written ▸ Codec.uint16_faithful.readsText _
  uint64 written := written ▸ Codec.uint64_faithful.readsText _
  absent codec written := written ▸ ⟨⟨110, _, rfl, rfl, by decide⟩, Codec.optional_reads_null codec⟩
  present accepted present :=
    ⟨accepted.1, Codec.optional_reads_some accepted.1 (Json.format_present present) accepted.2⟩
  object distinct fills complete others written ofRow toRow := by
    obtain ⟨inner, rfl, enclosed⟩ := written
    exact Codec.record_object ofRow toRow distinct fills complete others enclosed
  array inOrder written ofRow toRow := by
    obtain ⟨inner, rfl, enclosed⟩ := written
    exact Codec.record_array ofRow toRow inOrder enclosed
  map binds written := by
    obtain ⟨inner, rfl, enclosed⟩ := written
    exact Codec.nameMap_object binds enclosed

/-- The values of TOML, which has none for what is absent. Of the entries that nobody asks for, the numbers have to be
numbers, and not too large. -/
def Toml.format : Format Toml where
  text value item := item = .text value
  flag value item := item = .flag value
  natural number item := item = .integer number
  absent _ := False
  array items item := item = .array items
  object members item := item = .table members
  passed item := item.passable = true

theorem Codec.natural_ofToml {limit number : Nat} (fits : number < limit) :
    (Codec.natural limit).ofToml (.integer number) = some number := Codec.below_natCast fits

theorem Toml.format_read : Toml.format.ReadBy TakesToml where
  text written := written ▸ rfl
  flag written := written ▸ rfl
  uint16 {value item} written := by
    have taken : (Codec.natural 0x10000).ofToml item = some value.toNat :=
      written ▸ Codec.natural_ofToml value.toNat_lt
    change ((Codec.natural 0x10000).ofToml item).map UInt16.ofNat = _
    rw [taken, Option.map_some, UInt16.ofNat_toNat]
  uint64 {value item} written := by
    have taken : (Codec.natural 0x10000000000000000).ofToml item = some value.toNat :=
      written ▸ Codec.natural_ofToml value.toNat_lt
    change ((Codec.natural 0x10000000000000000).ofToml item).map UInt64.ofNat = _
    rw [taken, Option.map_some, UInt64.ofNat_toNat]
  absent codec written := written.elim
  present {α codec value item} accepted present := by
    have taken : codec.ofToml item = some value := accepted
    change (codec.ofToml item).map some = _
    rw [taken]
    rfl
  object distinct fills complete others written ofRow toRow :=
    written ▸ Codec.record_table ofRow toRow fills complete others
  array inOrder written ofRow toRow := written ▸ Codec.record_items ofRow toRow inOrder
  map binds written := written ▸ Codec.nameMap_table binds

end ScanCheck
