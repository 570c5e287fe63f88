import ScanCheck.Decimal.Shortest
import ScanCheck.Json.Value

namespace ScanCheck.Json

def controlEscape (char : Char) : List Char :=
  ['\\', 'u', '0', '0', Nat.digitChar (char.toNat / 16), Nat.digitChar (char.toNat % 16)]

def quoteChar (char : Char) : List Char :=
  if char = '"' then ['\\', '"']
  else if char = '\\' then ['\\', '\\']
  else if char = '\n' then ['\\', 'n']
  else if char = '\r' then ['\\', 'r']
  else if char = '\t' then ['\\', 't']
  else if char = '\x08' then ['\\', 'b']
  else if char = '\x0c' then ['\\', 'f']
  else if char.toNat < 0x20 then controlEscape char
  else [char]

def quote (text : String) : List Char := ['"'] ++ text.toList.flatMap quoteChar ++ ['"']

/-- Doubles are written positionally from 0.00001 up to sixteen digits before the point. -/
def numberLayout : Decimal.Layout := ⟨-5, 15⟩

/-- The text of a double: no number but a finite one has a text of its own. -/
def printDouble (value : Float) : List Char :=
  let bits := value.toBits
  if bits.toNat / 0x10000000000000 % 0x800 = 0x7FF then ['n', 'u', 'l', 'l']
  else
    let sign := if bits.toNat / 0x8000000000000000 = 1 then ['-'] else []
    if bits.toNat % 0x8000000000000000 = 0 then sign ++ ['0', '.', '0']
    else sign ++ numberLayout.render (Decimal.Dyadic.ofBits bits).shortest

def printInt (value : Int) : List Char :=
  if value < 0 then '-' :: Decimal.digits value.natAbs else Decimal.digits value.natAbs

def printNumber : Number → List Char
  | .integer value => printInt value
  | .double value => printDouble value

def printFlag (value : Bool) : List Char :=
  if value then ['t', 'r', 'u', 'e'] else ['f', 'a', 'l', 's', 'e']

def commas : List (List Char) → List Char
  | [] => []
  | [last] => last
  | first :: rest => first ++ [','] ++ commas rest

def bracketed (items : List (List Char)) : List Char := ['['] ++ commas items ++ [']']

def braced (members : List (String × List Char)) : List Char :=
  ['\x7b'] ++ commas (members.map fun member => quote member.1 ++ [':'] ++ member.2) ++ ['\x7d']

mutual

def print : Json → List Char
  | .null => ['n', 'u', 'l', 'l']
  | .flag value => printFlag value
  | .number value => printNumber value
  | .text value => quote value
  | .array items => bracketed (printItems items)
  | .object members => braced (printMembers members)

def printItems : List Json → List (List Char)
  | [] => []
  | item :: rest => item.print :: printItems rest

def printMembers : List (String × Json) → List (String × List Char)
  | [] => []
  | (name, value) :: rest => (name, value.print) :: printMembers rest

end

def compact (value : Json) : String := String.ofList value.print

end ScanCheck.Json
