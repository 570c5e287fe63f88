import ScanCheck.Codec.Record
import ScanCheck.Proofs.Json.Enclosed

namespace ScanCheck

open Json (Begins Prints Takes Yields)

/-- What one codec prints for a value another one reads as the value that is meant, wherever the text stands. -/
structure Codec.Conveys {α β : Type} (sender : Codec α) (receiver : Codec β) (meaning : α → β) : Prop where
  opens : ∀ value, Begins (Utf8.encode (sender.print value))
  reads : ∀ value, Yields receiver.read (Utf8.encode (sender.print value)) (.ok (meaning value))

/-- A value can be read back from its text. -/
structure Codec.Faithful {α : Type} (codec : Codec α) : Prop where
  opens : ∀ value, Begins (Utf8.encode (codec.print value))
  reads : ∀ value, Yields codec.read (Utf8.encode (codec.print value)) (.ok value)

namespace Codec

section Conveys

variable {α β : Type} {sender : Codec α} {receiver : Codec β} {meaning : α → β}

theorem Conveys.decode_text (conveys : sender.Conveys receiver meaning) (value : α) :
    receiver.decode (utf8 (sender.text value)) = .ok (meaning value) := by
  have read := Json.readAll_yields (conveys.reads value) Json.blank_nil Json.blank_nil
  rw [List.nil_append, List.append_nil] at read
  rw [decode, utf8, text, String.toList_ofList, read]

theorem Conveys.list (conveys : sender.Conveys receiver meaning) :
    sender.list.Conveys receiver.list (List.map meaning) where
  opens values := ⟨91, _, rfl, rfl, by decide⟩
  reads values gap rest blank _ := by
    unfold Codec.list
    dsimp only
    rw [Json.encode_bracketed, List.cons_append, Json.skipBlanks_gap blank rfl]
    exact Json.items_commas conveys.opens conveys.reads values rest

end Conveys

variable {α : Type} {codec : Codec α}

theorem Faithful.conveys (faithful : codec.Faithful) : codec.Conveys codec id := ⟨faithful.opens, faithful.reads⟩

theorem Conveys.faithful {meaning : α → α} (conveys : codec.Conveys codec meaning)
    (same : ∀ value, meaning value = value) : codec.Faithful where
  opens := conveys.opens
  reads value := by
    have read := conveys.reads value
    rwa [same] at read

theorem Faithful.decode_text (faithful : codec.Faithful) (value : α) :
    codec.decode (utf8 (codec.text value)) = .ok value := faithful.conveys.decode_text value

theorem string_faithful : string.Faithful where
  opens value := ⟨34, _, Json.encode_quote value, rfl, by decide⟩
  reads value gap rest blank _ := by
    unfold string
    dsimp only
    rw [Json.encode_quote, List.cons_append, Json.skipBlanks_gap blank rfl]
    simp only [List.append_assoc, List.singleton_append, if_true, Json.stringTail_quoted]
    rfl

theorem string_conveys : string.Conveys string id := string_faithful.conveys

theorem list_faithful (faithful : codec.Faithful) : codec.list.Faithful :=
  faithful.conveys.list.faithful List.map_id

end Codec

@[simp] theorem Json.Reader.map_id {α : Type} (reader : Json.Reader α) : reader.map id = reader := by
  funext bytes
  simp only [Json.Reader.map, id]
  cases reader bytes <;> rfl

theorem Json.Reader.map_map {α β γ : Type} (reader : Json.Reader α) (first : α → β) (second : β → γ) :
    (reader.map first).map second = reader.map fun value => second (first value) := by
  funext bytes
  simp only [Json.Reader.map]
  cases reader bytes <;> rfl

/-- The slots that a row fills. -/
def Row.filled : {types : List Type} → Row types → Slots types
  | [], _ => ()
  | _ :: _, (value, row) => (some value, filled row)

namespace Fields

variable {types : List Type}

def Faithful : {types : List Type} → Fields types → Prop
  | [], .nil => True
  | _ :: _, .cons _ codec _ rest => codec.Faithful ∧ rest.Faithful

/-- Fields of the same names in the same order, each of which conveys its values. -/
inductive Conveys : {types others : List Type} → Fields types → Fields others → (Row types → Row others) → Prop
  | nil : Conveys .nil .nil id
  | cons {α β : Type} {types others : List Type} {fields : Fields types} {receivers : Fields others}
      {rows : Row types → Row others} {sender : Codec α} {receiver : Codec β} {meaning : α → β} {name : String}
      {missing : Option α} {usual : Option β} (first : sender.Conveys receiver meaning)
      (behind : fields.Conveys receivers rows) :
      Conveys (.cons name sender missing fields) (.cons name receiver usual receivers) (Prod.map meaning rows)

theorem Faithful.conveys {types : List Type} {fields : Fields types} (faithful : fields.Faithful) :
    fields.Conveys fields id := by
  induction fields with
  | nil => exact .nil
  | cons name codec missing rest ih =>
      obtain ⟨first, others⟩ := faithful
      have conveys : (Fields.cons name codec missing rest).Conveys (.cons name codec missing rest) (Prod.map id id) :=
        .cons first.conveys (ih others)
      rwa [Prod.map_id] at conveys

theorem complete_filled {types : List Type} (fields : Fields types) (row : Row types) :
    fields.complete row.filled = some row := by
  induction fields with
  | nil => rfl
  | cons name codec missing rest ih =>
      obtain ⟨value, row⟩ := row
      simp only [Row.filled, complete, ih, Option.some_or]

/-- A field whose slot is taken does not matter to the fields behind it. -/
theorem field_cons_of_ne {α : Type} {name key : String} (other : key ≠ name) (codec : Codec α)
    (missing : Option α) (rest : Fields types) (slot : Option α) (slots : Slots types) :
    (Fields.cons name codec missing rest).field (slot, slots) key =
      (rest.field slots key).under fun slots => (slot, slots) :=
  if_neg other

theorem field_cons_self {α : Type} (name : String) (codec : Codec α) (missing : Option α)
    (rest : Fields types) (slots : Slots types) :
    (Fields.cons name codec missing rest).field (none, slots) name =
      .value (codec.read.map fun value => (some value, slots)) :=
  if_pos rfl

/-- The members of a printed row fill the slots of its counterpart one after another. The induction is on the fields:
those in front of them are done, and `put` holds their values. -/
theorem Conveys.takes_print {types others : List Type} {fields : Fields types} {receivers : Fields others}
    {rows : Row types → Row others} (conveys : fields.Conveys receivers rows) (distinct : receivers.names.Nodup)
    (row : Row types) {σ : Type} (onMember : Json.OnMember σ) (put : Slots others → σ)
    (agrees : ∀ slots, ∀ name ∈ receivers.names, ∀ reader, receivers.field slots name = .value reader →
      onMember (put slots) name = .ok (reader.map put)) :
    Takes onMember (Prints id) (put receivers.free) (fields.print row) (.ok (put (rows row).filled)) := by
  induction conveys with
  | nil => exact .done
  | @cons α β types others fields receivers rows sender receiver meaning name missing usual first behind ih =>
      obtain ⟨value, row⟩ := row
      obtain ⟨fresh, distinct⟩ := List.nodup_cons.mp distinct
      have known : onMember (put (none, receivers.free)) name =
          .ok ((receiver.read.map fun value => (some value, receivers.free)).map put) :=
        agrees (none, receivers.free) name List.mem_cons_self _ (field_cons_self name receiver usual receivers _)
      have later := ih distinct row (fun slots => put (some (meaning value), slots)) <| by
        intro slots key member reader found
        have other : key ≠ name := fun same => fresh (same ▸ member)
        have read := agrees (some (meaning value), slots) key (List.mem_cons_of_mem _ member)
          (reader.map fun slots => (some (meaning value), slots)) (by rw [field_cons_of_ne other, found]; rfl)
        exact read.trans (congrArg Except.ok (reader.map_map _ put))
      have read := ((first.reads value).map fun value => (some value, receivers.free)).map put
      exact .taken (fun text prints => prints ▸ read.acts known) later

theorem onMember_field {fields : Fields types} {slots : Slots types} {name : String}
    {reader : Json.Reader (Slots types)} (found : fields.field slots name = .value reader) :
    fields.onMember slots name = .ok reader := by
  simp only [onMember, found]

end Fields

theorem Fields.Conveys.record {α β : Type} {types others : List Type} {fields : Fields types}
    {receivers : Fields others} {rows : Row types → Row others} (conveys : fields.Conveys receivers rows)
    (distinct : receivers.names.Nodup) (ofRow : Row types → α) (toRow : α → Row types)
    (ofOther : Row others → β) (toOther : β → Row others) :
    (Codec.record fields ofRow toRow).Conveys (Codec.record receivers ofOther toOther)
      fun value => ofOther (rows (toRow value)) where
  opens value := ⟨123, _, rfl, rfl, by decide⟩
  reads value := by
    have takes := conveys.takes_print distinct (toRow value) receivers.onMember id <| by
      intro slots name _ reader found
      rw [Json.Reader.map_id]
      exact Fields.onMember_field found
    have row : Yields receivers.read (Utf8.encode (Json.braced (fields.print (toRow value))))
        (.ok (rows (toRow value))) := by
      intro gap rest blank _
      have members := Json.members_commas takes rest
      rw [Json.encode_braced, List.cons_append, Fields.read, Json.skipBlanks_gap blank rfl]
      change receivers.fromObject _ = _
      rw [Fields.fromObject]
      rw [id] at members
      simp only [members, Except.map, bind, Except.bind, receivers.complete_filled, id]
    exact row.map ofOther

theorem Codec.record_faithful {α : Type} {types : List Type} {fields : Fields types}
    {ofRow : Row types → α} {toRow : α → Row types} (faithful : fields.Faithful)
    (distinct : fields.names.Nodup) (inverse : ∀ value, ofRow (toRow value) = value) :
    (Codec.record fields ofRow toRow).Faithful :=
  (faithful.conveys.record distinct ofRow toRow ofRow toRow).faithful inverse

end ScanCheck
