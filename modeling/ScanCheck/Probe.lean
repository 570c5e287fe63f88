import ScanCheck.Decimal.Natural
import ScanCheck.Text.Fields

namespace ScanCheck.Probe

structure Address where
  host : UInt8 × UInt8 × UInt8 × UInt8
  port : UInt16
deriving DecidableEq, Repr

def number? (limit : Nat) (row : List Char) : Option Nat :=
  if row ≠ [] ∧ row.all Decimal.isDigit ∧ Decimal.value row ≤ limit then some (Decimal.value row) else none

def octet? (row : List Char) : Option UInt8 :=
  if row.length > 1 ∧ row.head? = some '0' then none else (number? 255 row).map UInt8.ofNat

def Address.parse? (text : String) : Option Address :=
  match Text.fields ':' text.toList with
  | [host, port] =>
    match Text.fields '.' host, number? 65535 port with
    | [first, second, third, fourth], some port => do
      let host := (← octet? first, ← octet? second, ← octet? third, ← octet? fourth)
      some { host, port := UInt16.ofNat port }
    | _, _ => none
  | _ => none

def Address.hostText (address : Address) : String :=
  let (first, second, third, fourth) := address.host
  ".".intercalate ([first, second, third, fourth].map fun octet => Decimal.text octet.toNat)

/-- The address that a network would send from to reach another, if there is a way. -/
abbrev Network := Address → Option Address

def offline : Network := fun _ => none

def localAddress (network : Network) (target : String) : Option Address :=
  (Address.parse? target).bind network

end ScanCheck.Probe
