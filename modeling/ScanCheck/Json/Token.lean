import ScanCheck.Json.Value
import ScanCheck.Text.Utf8

/-!
# The tokens of JSON

Reading of blanks, words, strings and numbers from the front of a byte string. A reader gives back what it
read together with the bytes behind it, or the reason why it read nothing: the bytes ended too early, they
are no JSON, or they are JSON of another type than the wanted one. The first problem in reading order is
the one that is reported.
-/

namespace ScanCheck.Json

inductive Fault
  | ended
  | malformed
  | mistyped
deriving DecidableEq, Repr

abbrev Reader (α : Type) := Bytes → Except Fault (α × Bytes)

namespace Reader

variable {α β : Type}

def map (change : α → β) (reader : Reader α) : Reader β := fun bytes =>
  match reader bytes with
  | .ok (result, rest) => .ok (change result, rest)
  | .error fault => .error fault

end Reader

def isBlank (byte : UInt8) : Bool := byte == 32 || byte == 9 || byte == 10 || byte == 13

def skipBlanks (bytes : Bytes) : Bytes := bytes.dropWhile isBlank

def expectWord : (word : Bytes) → Bytes → Except Fault Bytes
  | [], bytes => .ok bytes
  | _ :: _, [] => .error .ended
  | expected :: word, byte :: bytes =>
    if byte = expected then expectWord word bytes else .error .malformed

/-- The words `null`, `true` and `false` without their first letters. -/
def nullTail : Bytes := [117, 108, 108]

def trueTail : Bytes := [114, 117, 101]

def falseTail : Bytes := [97, 108, 115, 101]

def hexValue (byte : UInt8) : Option Nat :=
  let code := byte.toNat
  if 48 ≤ code ∧ code ≤ 57 then some (code - 48)
  else if 97 ≤ code ∧ code ≤ 102 then some (code - 87)
  else if 65 ≤ code ∧ code ≤ 70 then some (code - 55)
  else none

def hexUnit (first second third fourth : UInt8) : Option Nat :=
  match hexValue first, hexValue second, hexValue third, hexValue fourth with
  | some a, some b, some c, some d => some (((a * 16 + b) * 16 + c) * 16 + d)
  | _, _, _, _ => none

def shortEscape (byte : UInt8) : Option UInt8 :=
  if byte = 34 then some 34
  else if byte = 92 then some 92
  else if byte = 47 then some 47
  else if byte = 98 then some 8
  else if byte = 102 then some 12
  else if byte = 110 then some 10
  else if byte = 114 then some 13
  else if byte = 116 then some 9
  else none

def isHighSurrogate (unit : Nat) : Bool := 0xD800 ≤ unit && unit ≤ 0xDBFF

def isLowSurrogate (unit : Nat) : Bool := 0xDC00 ≤ unit && unit ≤ 0xDFFF

def pairCode (high low : Nat) : Nat := 0x10000 + (high - 0xD800) * 0x400 + (low - 0xDC00)

def prependBytes (bytes : Bytes) : Except Fault (Bytes × Bytes) → Except Fault (Bytes × Bytes)
  | .ok (contents, rest) => .ok (bytes ++ contents, rest)
  | .error fault => .error fault

/-- The contents of a string behind its opening quote, with the escapes resolved, and the bytes behind
its closing quote. Surrogates come in pairs. Whether the contents are UTF-8 is not looked at yet. -/
def stringContents : Bytes → Except Fault (Bytes × Bytes)
  | [] => .error .ended
  | byte :: rest =>
    if byte = 34 then .ok ([], rest)
    else if byte = 92 then
      match rest with
      | [] => .error .ended
      | escaped :: rest =>
        if escaped = 117 then
          match rest with
          | first :: second :: third :: fourth :: rest =>
            match hexUnit first second third fourth with
            | none => .error .malformed
            | some unit =>
              if isLowSurrogate unit then .error .malformed
              else if isHighSurrogate unit then
                match rest with
                | [] => .error .ended
                | backslash :: rest =>
                  if backslash ≠ 92 then .error .malformed
                  else
                    match rest with
                    | [] => .error .ended
                    | letter :: rest =>
                      if letter ≠ 117 then .error .malformed
                      else
                        match rest with
                        | fifth :: sixth :: seventh :: eighth :: rest =>
                          match hexUnit fifth sixth seventh eighth with
                          | none => .error .malformed
                          | some low =>
                            if isLowSurrogate low then
                              prependBytes (Utf8.encode [Char.ofNat (pairCode unit low)])
                                (stringContents rest)
                            else .error .malformed
                        | _ => .error .ended
              else prependBytes (Utf8.encode [Char.ofNat unit]) (stringContents rest)
          | _ => .error .ended
        else
          match shortEscape escaped with
          | some meant => prependBytes [meant] (stringContents rest)
          | none => .error .malformed
    else if byte < 32 then .error .malformed
    else prependBytes [byte] (stringContents rest)

def stringTail : Reader String := fun bytes =>
  match stringContents bytes with
  | .error fault => .error fault
  | .ok (contents, rest) =>
    match contents.text? with
    | some decoded => .ok (decoded, rest)
    | none => .error .malformed

def isDigit (byte : UInt8) : Bool := 48 ≤ byte && byte ≤ 57

def leadingDigits (bytes : Bytes) : List Nat :=
  (bytes.takeWhile isDigit).map fun byte => byte.toNat - 48

def afterDigits (bytes : Bytes) : Bytes := bytes.dropWhile isDigit

/-- Takes digits into a 64-bit significand for as long as they fit, and counts those that do not. -/
def accumulate (significand : Nat) : List Nat → Nat × Nat
  | [] => (significand, 0)
  | digit :: rest =>
    if significand * 10 + digit < 0x10000000000000000 then accumulate (significand * 10 + digit) rest
    else (significand, rest.length + 1)

def powerOfTen (exponent : Nat) : Float := Float.ofScientific 1 false exponent

/-- A significand times a power of ten, rounded once for the significand and once for the product or
quotient. A result too large for a double is none. -/
def scale (significand : Nat) (exponent : Int) : Option Float :=
  let base := significand.toUInt64.toFloat
  if 0 ≤ exponent then
    if significand = 0 then some 0
    else if 308 < exponent then none
    else
      let product := base * powerOfTen exponent.toNat
      if product.isInf then none else some product
  else if -308 ≤ exponent then some (base / powerOfTen (-exponent).toNat)
  else if -616 ≤ exponent then some (base / powerOfTen 308 / powerOfTen (-exponent - 308).toNat)
  else some 0

structure Numeral where
  negative : Bool
  whole : List Nat
  fraction : Option (List Nat)
  exponent : Option Int
deriving DecidableEq, Repr

/-- The number that its parts stand for: an integer if there is neither point nor exponent and it fits,
else a double. Minus zero is a double. -/
def Numeral.value? (numeral : Numeral) : Option Number :=
  let (whole, beyond) := accumulate 0 numeral.whole
  let signed (magnitude : Float) : Number := .double (if numeral.negative then -magnitude else magnitude)
  match numeral.fraction, numeral.exponent with
  | none, none =>
    if beyond = 0 then
      let value : Int := if numeral.negative then -(whole : Int) else whole
      if Number.IsIntegral value ∧ ¬(numeral.negative ∧ whole = 0) then some (.integer value)
      else some (signed whole.toUInt64.toFloat)
    else (scale whole beyond).map signed
  | fraction, exponent =>
    let places := fraction.getD []
    let (significand, dropped) := accumulate whole places
    let shift : Int := (beyond : Int) - (places.length - dropped : Nat) + exponent.getD 0
    (scale significand shift).map signed

/-- The digits before the point: a leading zero stands alone. -/
def wholePart (bytes : Bytes) : Except Fault (List Nat × Bytes) :=
  match bytes with
  | [] => .error .ended
  | first :: rest =>
    if first = 48 then
      match rest with
      | [] => .ok ([0], rest)
      | next :: _ => if isDigit next then .error .malformed else .ok ([0], rest)
    else if isDigit first then .ok (leadingDigits bytes, afterDigits bytes)
    else .error .malformed

def fractionPart : Bytes → Except Fault (Option (List Nat) × Bytes)
  | 46 :: rest =>
    match leadingDigits rest, rest with
    | [], [] => .error .ended
    | [], _ :: _ => .error .malformed
    | places, _ => .ok (some places, afterDigits rest)
  | bytes => .ok (none, bytes)

def exponentSign : Bytes → Bool × Bytes
  | 43 :: rest => (false, rest)
  | 45 :: rest => (true, rest)
  | bytes => (false, bytes)

def exponentPart : Bytes → Except Fault (Option Int × Bytes)
  | [] => .ok (none, [])
  | byte :: rest =>
    if byte = 101 ∨ byte = 69 then
      let (negative, row) := exponentSign rest
      match leadingDigits row, row with
      | [], [] => .error .ended
      | [], _ :: _ => .error .malformed
      | digits, _ =>
        let magnitude : Int := (digits.foldl (fun total digit => total * 10 + digit) 0 : Nat)
        .ok (some (if negative then -magnitude else magnitude), afterDigits row)
    else .ok (none, byte :: rest)

def numberTail (negative : Bool) : Reader Number := fun bytes => do
  let (whole, rest) ← wholePart bytes
  let (fraction, rest) ← fractionPart rest
  let (exponent, rest) ← exponentPart rest
  match Numeral.value? { negative, whole, fraction, exponent } with
  | some value => .ok (value, rest)
  | none => .error .malformed

end ScanCheck.Json
