import Mathlib.Data.List.Forall2
import ScanCheck.Proofs.Codec.RoundTrip
import ScanCheck.Proofs.Json.Grammar
import ScanCheck.Proofs.NameMap

namespace ScanCheck

open Json (Begins Prints Takes Yields)

variable {α : Type}

namespace Codec

theorem flag_faithful : flag.Faithful where
  opens
    | true => ⟨116, _, rfl, rfl, by decide⟩
    | false => ⟨102, _, rfl, rfl, by decide⟩
  reads
    | true, gap, rest, blank, _ => by
        change flag.read (gap ++ 116 :: (Json.trueTail ++ rest)) = _
        simp only [flag, Json.skipBlanks_gap blank (show Json.isBlank 116 = false from rfl), Json.expectWord_append]
        rfl
    | false, gap, rest, blank, _ => by
        change flag.read (gap ++ 102 :: (Json.falseTail ++ rest)) = _
        simp only [flag, Json.skipBlanks_gap blank (show Json.isBlank 102 = false from rfl), Json.expectWord_append]
        rfl

theorem natural_opens (limit number : Nat) : Begins (Utf8.encode ((natural limit).print number)) := by
  obtain ⟨byte, tail, encoded, digital, -⟩ := Json.encode_digits number
  obtain ⟨visible, inside, -⟩ := Json.isDigit_visible digital
  exact ⟨byte, tail, encoded, visible, inside⟩

theorem below_natCast {limit number : Nat} (fits : number < limit) : below limit number = some number := by
  rw [below, if_pos ⟨Int.natCast_nonneg _, Int.ofNat_lt.mpr fits⟩, Int.toNat_natCast]

theorem natural_reads {limit number : Nat} (below : number < limit) (fits : limit ≤ 0x10000000000000000) :
    Yields (natural limit).read (Utf8.encode ((natural limit).print number)) (.ok number) := by
  intro gap rest blank delimited
  have read := Json.numberTail_digits number delimited (Nat.lt_of_lt_of_le below fits)
  obtain ⟨byte, tail, encoded, digital, -⟩ := Json.encode_digits number
  obtain ⟨visible, -, positive⟩ := Json.isDigit_visible digital
  change (natural limit).read (gap ++ (Utf8.encode (Decimal.digits number) ++ rest)) = _
  rw [encoded, List.cons_append] at read ⊢
  simp only [natural, Json.skipBlanks_gap blank visible, if_neg positive, digital, if_true, read, bind,
    Except.bind, below_natCast below]
  rfl

theorem across_faithful {β : Type} {codec : Codec α} {into : α → β} {back : β → α}
    (opens : ∀ value, Begins (Utf8.encode (codec.print (back value))))
    (reads : ∀ value, Yields codec.read (Utf8.encode (codec.print (back value))) (.ok (back value)))
    (inverse : ∀ value, into (back value) = value) : (codec.across into back).Faithful where
  opens := opens
  reads value := by
    have read := (reads value).map into
    rw [Except.map, inverse] at read
    exact read

theorem uint16_faithful : uint16.Faithful :=
  across_faithful (fun _ => natural_opens _ _) (fun value => natural_reads value.toNat_lt (by decide))
    fun _ => UInt16.ofNat_toNat

theorem uint64_faithful : uint64.Faithful :=
  across_faithful (fun _ => natural_opens _ _) (fun value => natural_reads value.toNat_lt (by decide))
    fun _ => UInt64.ofNat_toNat

/-- No value is written with the first letter of the word for an absent one. -/
def Present (codec : Codec α) : Prop := ∀ value, (Utf8.encode (codec.print value)).head? ≠ some 110

theorem string_present : string.Present := by
  intro value
  change (Utf8.encode (Json.quote value)).head? ≠ _
  rw [Json.encode_quote, List.head?_cons]
  decide

theorem record_present {types : List Type} (fields : Fields types) (ofRow : Row types → α)
    (toRow : α → Row types) : (Codec.record fields ofRow toRow).Present := by
  intro value
  change some (123 : UInt8) ≠ some 110
  decide

theorem optional_reads_null (codec : Codec α) : Yields codec.optional.read (110 :: Json.nullTail) (.ok none) := by
  intro gap rest blank _
  rw [List.cons_append]
  simp only [optional, Json.skipBlanks_gap blank (show Json.isBlank 110 = false from rfl), Json.expectWord_append]
  rfl

theorem optional_reads_some {codec : Codec α} {text : Bytes} {value : α} (opens : Begins text)
    (other : text.head? ≠ some 110) (reads : Yields codec.read text (.ok value)) :
    Yields codec.optional.read text (.ok (some value)) := by
  intro gap rest blank delimited
  have read := reads.front delimited
  obtain ⟨byte, tail, rfl, visible, -⟩ := opens
  rw [List.cons_append] at read ⊢
  unfold optional
  dsimp only
  rw [Json.skipBlanks_gap blank visible]
  split
  · rename_i same
    exact absurd (congrArg some (List.cons.inj same).1) other
  · simp only [Json.Reader.map, read]
    rfl

theorem optional_faithful {codec : Codec α} (faithful : codec.Faithful) (present : codec.Present) :
    codec.optional.Faithful where
  opens
    | none => ⟨110, _, rfl, rfl, by decide⟩
    | some value => faithful.opens value
  reads
    | none => optional_reads_null codec
    | some value => optional_reads_some (faithful.opens value) (present value) (faithful.reads value)

/-- A binding is read from a member: under the same name, whichever text of the member's value it is. -/
def ReadFrom {β : Type} (codec : Codec α) (entry : β → Bytes → Prop) (binding : String × α)
    (member : String × β) : Prop :=
  binding.1 = member.1 ∧ ∀ text, entry member.2 text → Yields codec.read text (.ok binding.2)

/-- Bindings are put in one after another, each from its member. -/
theorem takes_bindings {β : Type} {codec : Codec α} {entry : β → Bytes → Prop} {bindings : List (String × α)}
    {members : List (String × β)} (read : List.Forall₂ (codec.ReadFrom entry) bindings members) (map : NameMap α) :
    Takes (fun map name => .ok (codec.read.map (map.insert name))) entry map members
      (.ok (bindings.foldl (fun map binding => map.insert binding.1 binding.2) map)) := by
  induction read generalizing map with
  | nil => exact .done
  | @cons binding member bindings members own others ih =>
      obtain ⟨same, reads⟩ := own
      refine .taken (fun text written => ?_) (ih (map.insert binding.1 binding.2))
      exact ((reads text written).map (map.insert binding.1)).acts (by rw [same])

theorem nameMap_faithful {codec : Codec α} (faithful : codec.Faithful) : codec.nameMap.Faithful where
  opens map := ⟨123, _, rfl, rfl, by decide⟩
  reads map gap rest blank _ := by
    have printed : List.Forall₂ (codec.ReadFrom (Prints id)) map.entries
        (map.entries.map fun entry => (entry.1, codec.print entry.2)) := by
      apply List.forall₂_map_right_iff.mpr
      apply List.forall₂_same.mpr
      exact fun entry _ => ⟨rfl, fun text prints => prints ▸ faithful.reads entry.2⟩
    have takes := takes_bindings printed .empty
    rw [← NameMap.ofList, NameMap.ofList_entries] at takes
    unfold nameMap
    dsimp only
    rw [Json.encode_braced, List.cons_append, Json.skipBlanks_gap blank rfl]
    exact Json.members_commas takes rest

end Codec

end ScanCheck
