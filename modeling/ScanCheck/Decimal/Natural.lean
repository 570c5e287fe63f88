namespace ScanCheck.Decimal

def digits (value : Nat) : List Char := Nat.toDigits 10 value

def text (value : Nat) : String := String.ofList (digits value)

def isDigit (char : Char) : Bool := '0' ≤ char && char ≤ '9'

def value (row : List Char) : Nat :=
  row.foldl (fun total digit => total * 10 + (digit.toNat - '0'.toNat)) 0

def dropPlus : List Char → List Char
  | '+' :: rest => rest
  | text => text

/-- The number written by one or more digits behind an optional plus sign, if it is at most `limit`. -/
def readUpTo (limit : Nat) (text : List Char) : Option Nat :=
  let row := dropPlus text
  if row ≠ [] ∧ row.all isDigit ∧ value row ≤ limit then some (value row) else none

/-- The 64-bit number that a string stands for. A number that does not fit is refused, never wrapped. -/
def readUInt64? (text : String) : Option UInt64 :=
  (readUpTo 0xFFFFFFFFFFFFFFFF text.toList).map UInt64.ofNat

end ScanCheck.Decimal
