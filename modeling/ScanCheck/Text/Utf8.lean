/-!
# UTF-8

The encoding of a text as bytes, and its reading back. Reading is an automaton over the bytes: every
byte either completes a character, continues one, or shows that the bytes before it were no character.
A strict reader refuses such bytes; a lossy one puts the replacement character in their place, once for
every longest stretch that could still have become a character.
-/

namespace ScanCheck

/-- A finite string of bytes: a body, a file, a path segment. -/
abbrev Bytes := List UInt8

namespace Utf8

def encode (text : List Char) : Bytes := text.flatMap String.utf8EncodeChar

/-- A character whose first bytes have been read. The next byte has to lie between `low` and `high`,
and `more` further ones follow it. -/
structure Pending where
  more : Nat
  low : Nat
  high : Nat
  value : Nat
deriving DecidableEq, Repr

inductive Lead
  | character (char : Char)
  | opens (pending : Pending)
  | stray
deriving DecidableEq, Repr

/-- The bounds on the second byte keep out overlong forms, surrogates and values above U+10FFFF. -/
def lead (byte : UInt8) : Lead :=
  let value := byte.toNat
  if value < 0x80 then .character (Char.ofNat value)
  else if value < 0xC2 then .stray
  else if value < 0xE0 then .opens ⟨0, 0x80, 0xBF, value - 0xC0⟩
  else if value = 0xE0 then .opens ⟨1, 0xA0, 0xBF, 0⟩
  else if value = 0xED then .opens ⟨1, 0x80, 0x9F, 0xD⟩
  else if value < 0xF0 then .opens ⟨1, 0x80, 0xBF, value - 0xE0⟩
  else if value = 0xF0 then .opens ⟨2, 0x90, 0xBF, 0⟩
  else if value < 0xF4 then .opens ⟨2, 0x80, 0xBF, value - 0xF0⟩
  else if value = 0xF4 then .opens ⟨2, 0x80, 0x8F, 4⟩
  else .stray

/-- The pieces that a byte in first position completes, and what it leaves open. -/
def start (byte : UInt8) : List (Option Char) × Option Pending :=
  match lead byte with
  | .character char => ([some char], none)
  | .opens pending => ([], some pending)
  | .stray => ([none], none)

/-- The pieces that the next byte completes. A byte that does not fit ends the open character as
malformed and is read again in first position. -/
def step (pending : Option Pending) (byte : UInt8) : List (Option Char) × Option Pending :=
  match pending with
  | none => start byte
  | some held =>
    if held.low ≤ byte.toNat ∧ byte.toNat ≤ held.high then
      let value := held.value * 64 + (byte.toNat - 0x80)
      match held.more with
      | 0 => ([some (Char.ofNat value)], none)
      | more + 1 => ([], some ⟨more, 0x80, 0xBF, value⟩)
    else
      let (pieces, next) := start byte
      (none :: pieces, next)

/-- The characters of a byte string in order, with `none` for every malformed stretch. -/
def pieces (pending : Option Pending) : Bytes → List (Option Char)
  | [] => if pending.isSome then [none] else []
  | byte :: rest =>
    let (done, next) := step pending byte
    done ++ pieces next rest

def replacement : Char := '\uFFFD'

/-- The text of a byte string, with a replacement character for every malformed stretch. -/
def decodeLossy (bytes : Bytes) : List Char :=
  (pieces none bytes).map (·.getD replacement)

def decode? (bytes : Bytes) : Option (List Char) := (pieces none bytes).mapM id

end Utf8

def utf8 (text : String) : Bytes := Utf8.encode text.toList

def Bytes.text (bytes : Bytes) : String := String.ofList (Utf8.decodeLossy bytes)

def Bytes.text? (bytes : Bytes) : Option String := (Utf8.decode? bytes).map String.ofList

end ScanCheck
