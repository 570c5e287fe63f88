import ScanCheck.Codec.Basic
import ScanCheck.Json.Skip

/-!
# Records

A record is read from an object, whatever the order of its members, or from an array that holds the fields
in their declared order. Members that are no fields are passed over; a field given twice is refused as
soon as its name is read, and a missing one at the closing brace, unless it has a value of its own for
that case.
-/

namespace ScanCheck

/-- The fields of a record in their declared order, each with its name, its codec, and the value it takes
when it is missing. -/
inductive Fields : List Type → Type 1
  | nil : Fields []
  | cons {α : Type} {types : List Type} (name : String) (codec : Codec α) (missing : Option α)
      (rest : Fields types) : Fields (α :: types)

def Row : List Type → Type
  | [] => Unit
  | α :: types => α × Row types

/-- A value for every field that has been read so far. -/
def Slots : List Type → Type
  | [] => Unit
  | α :: types => Option α × Slots types

inductive Field (σ : Type)
  | unknown
  | repeated
  | value (read : Json.Reader σ)

def Field.under {σ τ : Type} (wrap : σ → τ) : Field σ → Field τ
  | .unknown => .unknown
  | .repeated => .repeated
  | .value read => .value (read.map wrap)

namespace Fields

variable {types : List Type}

def free : {types : List Type} → Fields types → Slots types
  | [], .nil => ()
  | _ :: _, .cons _ _ _ rest => (none, rest.free)

def field : {types : List Type} → Fields types → Slots types → String → Field (Slots types)
  | [], .nil, _, _ => .unknown
  | _ :: _, .cons name codec _ rest, (slot, slots), key =>
    if key = name then
      match slot with
      | some _ => .repeated
      | none => .value (codec.read.map fun value => (some value, slots))
    else (rest.field slots key).under fun slots => (slot, slots)

def complete : {types : List Type} → Fields types → Slots types → Option (Row types)
  | [], .nil, _ => some ()
  | _ :: _, .cons _ _ missing rest, (slot, slots) =>
    match slot.or missing, rest.complete slots with
    | some value, some row => some (value, row)
    | _, _ => none

def onMember (fields : Fields types) : Json.OnMember (Slots types) := fun slots name =>
  match fields.field slots name with
  | .unknown => .ok fun bytes => (Json.skipValue bytes).map fun rest => (slots, rest)
  | .repeated => .error .mistyped
  | .value read => .ok read

def fromObject (fields : Fields types) : Json.Reader (Row types) := fun bytes => do
  let (slots, rest) ← Json.members fields.onMember fields.free bytes
  match fields.complete slots with
  | some row => .ok (row, rest)
  | none => .error .mistyped

/-- The bytes behind the closing bracket of an array whose items are all read. -/
def closeArray (bytes : Bytes) : Except Json.Fault Bytes :=
  match Json.skipBlanks bytes with
  | [] => .error .ended
  | byte :: rest => if byte = 93 then .ok rest else .error .malformed

/-- The bytes in front of the next item of an array, or nothing if the array ends here. -/
def nextItem (first : Bool) (bytes : Bytes) : Except Json.Fault (Option Bytes) :=
  match Json.skipBlanks bytes with
  | [] => .error .ended
  | byte :: rest =>
    if byte = 93 then .ok none
    else if first then .ok (some (byte :: rest))
    else if byte = 44 then
      match Json.skipBlanks rest with
      | [] => .error .ended
      | next :: rest => if next = 93 then .error .malformed else .ok (some (next :: rest))
    else .error .malformed

/-- The row of an array behind its opening bracket. An array may stop early if the remaining fields need
not be given, but it may not go on. -/
def fromArray : {types : List Type} → Fields types → (first : Bool) → Json.Reader (Row types)
  | [], .nil, _, bytes => (closeArray bytes).map fun rest => ((), rest)
  | _ :: _, .cons _ codec missing rest, first, bytes => do
    match ← nextItem first bytes with
    | some bytes =>
      let (value, bytes) ← codec.read bytes
      let (row, bytes) ← rest.fromArray false bytes
      .ok ((value, row), bytes)
    | none =>
      match missing with
      | some value =>
        let (row, bytes) ← rest.fromArray first bytes
        .ok ((value, row), bytes)
      | none => .error .mistyped

def read (fields : Fields types) : Json.Reader (Row types) := fun bytes =>
  match Json.skipBlanks bytes with
  | [] => .error .ended
  | byte :: rest =>
    if byte = 91 then fields.fromArray true rest
    else if byte = 123 then fields.fromObject rest
    else .error (Json.mistyped (byte :: rest))

def print : {types : List Type} → Fields types → Row types → List (String × List Char)
  | [], .nil, _ => []
  | _ :: _, .cons name codec _ rest, (value, row) => (name, codec.print value) :: rest.print row

def names : {types : List Type} → Fields types → List String
  | [], .nil => []
  | _ :: _, .cons name _ _ rest => name :: rest.names

def fromTable : {types : List Type} → Fields types → List (String × Toml) → Option (Row types)
  | [], .nil, _ => some ()
  | _ :: _, .cons name codec missing rest, entries => do
    let value ← match entries.lookup name with
      | some given => codec.ofToml given
      | none => missing
    some (value, ← rest.fromTable entries)

/-- The row of the items of a TOML array, of which surplus ones are not looked at. -/
def fromItems : {types : List Type} → Fields types → List Toml → Option (Row types)
  | [], .nil, _ => some ()
  | _ :: _, .cons _ codec _ rest, item :: items => do
    some (← codec.ofToml item, ← rest.fromItems items)
  | _ :: _, .cons _ _ missing rest, [] => do
    some (← missing, ← rest.fromItems [])

/-- The row of a TOML value. An entry of a table that is no field has to be passable. -/
def ofToml (fields : Fields types) : Toml → Option (Row types)
  | .table entries =>
    if entries.all fun entry => fields.names.contains entry.1 || entry.2.passable
    then fields.fromTable entries
    else none
  | .array items => fields.fromItems items
  | _ => none

end Fields

def Codec.record {α : Type} {types : List Type} (fields : Fields types) (ofRow : Row types → α)
    (toRow : α → Row types) : Codec α where
  print value := Json.braced (fields.print (toRow value))
  read := fields.read.map ofRow
  ofToml value := (fields.ofToml value).map ofRow

end ScanCheck
