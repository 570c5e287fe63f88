import ScanCheck.Json.Printer
import ScanCheck.Json.Reader
import ScanCheck.Toml.Value

/-!
# Typed values in JSON and TOML

A codec says how the values of a type are written as JSON, read from JSON bytes, and taken from a TOML
value. Reading is typed from the start: a value of another type is refused where it stands, before what
follows it is looked at.
-/

namespace ScanCheck

structure Codec (α : Type) where
  print : α → List Char
  read : Json.Reader α
  ofToml : Toml → Option α

namespace Codec

variable {α : Type}

/-- The words of the libraries for a text that a codec does not take. Nothing is known of them. -/
class Wording where
  json {α : Type} (codec : Codec α) (bytes : Bytes) : String
  toml {α : Type} (codec : Codec α) (source : String) : String

def text (codec : Codec α) (value : α) : String := String.ofList (codec.print value)

def decode (codec : Codec α) (bytes : Bytes) : Except Json.Fault α := Json.readAll codec.read bytes

def string : Codec String where
  print := Json.quote
  read := fun bytes =>
    match Json.skipBlanks bytes with
    | [] => .error .ended
    | byte :: rest =>
      if byte = 34 then Json.stringTail rest else .error (Json.mistyped (byte :: rest))
  ofToml
    | .text value => some value
    | _ => none

def flag : Codec Bool where
  print := Json.printFlag
  read := fun bytes =>
    match Json.skipBlanks bytes with
    | [] => .error .ended
    | byte :: rest =>
      if byte = 116 then (Json.expectWord Json.trueTail rest).map fun rest => (true, rest)
      else if byte = 102 then (Json.expectWord Json.falseTail rest).map fun rest => (false, rest)
      else .error (Json.mistyped (byte :: rest))
  ofToml
    | .flag value => some value
    | _ => none

def below (limit : Nat) (value : Int) : Option Nat :=
  if 0 ≤ value ∧ value < limit then some value.toNat else none

/-- Natural numbers below a limit. A number with a fraction or an exponent is no natural number, not even
if its value is one. -/
def natural (limit : Nat) : Codec Nat where
  print := Decimal.digits
  read := fun bytes =>
    match Json.skipBlanks bytes with
    | [] => .error .ended
    | byte :: rest =>
      let check : Number × Bytes → Except Json.Fault (Nat × Bytes)
        | (.integer value, rest) =>
          match below limit value with
          | some number => .ok (number, rest)
          | none => .error .mistyped
        | (.double _, _) => .error .mistyped
      if byte = 45 then Json.numberTail true rest >>= check
      else if Json.isDigit byte then Json.numberTail false (byte :: rest) >>= check
      else .error (Json.mistyped (byte :: rest))
  ofToml
    | .integer value => below limit value
    | _ => none

def across {β : Type} (codec : Codec α) (into : α → β) (back : β → α) : Codec β where
  print := codec.print ∘ back
  read := codec.read.map into
  ofToml value := (codec.ofToml value).map into

def uint16 : Codec UInt16 := (natural 0x10000).across UInt16.ofNat UInt16.toNat

def uint64 : Codec UInt64 := (natural 0x10000000000000000).across UInt64.ofNat UInt64.toNat

/-- Values that may be absent: JSON writes `null` for such a value, and TOML has no value for it. -/
def optional (codec : Codec α) : Codec (Option α) where
  print
    | none => ['n', 'u', 'l', 'l']
    | some value => codec.print value
  read := fun bytes =>
    match Json.skipBlanks bytes with
    | 110 :: rest => (Json.expectWord Json.nullTail rest).map fun rest => (none, rest)
    | bytes => codec.read.map some bytes
  ofToml value := (codec.ofToml value).map some

def list (codec : Codec α) : Codec (List α) where
  print values := Json.bracketed (values.map codec.print)
  read := fun bytes =>
    match Json.skipBlanks bytes with
    | [] => .error .ended
    | byte :: rest =>
      if byte = 91 then Json.items codec.read rest else .error (Json.mistyped (byte :: rest))
  ofToml
    | .array items => items.mapM codec.ofToml
    | _ => none

/-- Maps from names. Of entries with the same name the last one counts. -/
def nameMap (codec : Codec α) : Codec (NameMap α) where
  print map := Json.braced (map.entries.map fun entry => (entry.1, codec.print entry.2))
  read := fun bytes =>
    match Json.skipBlanks bytes with
    | [] => .error .ended
    | byte :: rest =>
      if byte = 123 then
        Json.members (fun map name => .ok (codec.read.map (map.insert name))) NameMap.empty rest
      else .error (Json.mistyped (byte :: rest))
  ofToml
    | .table entries => do
      let bindings ← entries.mapM fun entry => (codec.ofToml entry.2).map fun value => (entry.1, value)
      some (NameMap.ofList bindings)
    | _ => none

/-- Values without a declared type. TOML has no such values here. -/
def json : Codec Json where
  print := Json.print
  read := Json.value
  ofToml _ := none

end Codec

end ScanCheck
