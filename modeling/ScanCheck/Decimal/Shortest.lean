import ScanCheck.Decimal.Natural

/-!
# Shortest decimals

The decimal digits that tell a double-precision number from every other with as few digits as possible,
and among those the digits nearest to the number. A double is an integer times a power of two, and the
reals that round to it form an interval, so the search needs integer arithmetic only: for one digit, two
digits and so on it tries the two neighbours of the number on the decimal grid.
-/

namespace ScanCheck.Decimal

/-- A positive number `significand · 2 ^ exponent`. `narrow` says that the gap to the next smaller
double is only half as wide as the gap to the next larger one. -/
structure Dyadic where
  significand : Nat
  exponent : Int
  narrow : Bool
deriving DecidableEq, Repr

def Dyadic.ofBits (bits : UInt64) : Dyadic :=
  let fraction : Nat := bits.toNat % 0x10000000000000
  let exponent : Nat := bits.toNat / 0x10000000000000 % 0x800
  if exponent = 0 then ⟨fraction, -1074, false⟩
  else ⟨0x10000000000000 + fraction, (exponent : Int) - 1075, fraction = 0 && exponent > 1⟩

structure Scaled where
  digits : Nat
  exponent : Int
deriving DecidableEq, Repr

/-- The number, its two rounding bounds, and their common denominator, all four as naturals. -/
structure Interval where
  low : Nat
  value : Nat
  high : Nat
  denominator : Nat
  closed : Bool

def Dyadic.interval (number : Dyadic) : Interval :=
  let quarter := number.exponent - 2
  let up := Nat.pow 2 quarter.toNat
  { low := (4 * number.significand - (if number.narrow then 1 else 2)) * up
    value := 4 * number.significand * up
    high := (4 * number.significand + 2) * up
    denominator := Nat.pow 2 (-quarter).toNat
    closed := number.significand % 2 = 0 }

def Interval.holds (interval : Interval) (decimal : Scaled) : Bool :=
  let point := decimal.digits * Nat.pow 10 decimal.exponent.toNat * interval.denominator
  let scale := Nat.pow 10 (-decimal.exponent).toNat
  if interval.closed then interval.low * scale ≤ point && point ≤ interval.high * scale
  else interval.low * scale < point && point < interval.high * scale

def Interval.magnitude (interval : Interval) : Int :=
  let guess := ((digits interval.value).length : Int) - (digits interval.denominator).length
  if interval.denominator * Nat.pow 10 guess.toNat ≤ interval.value * Nat.pow 10 (-guess).toNat then guess
  else guess - 1

/-- The nearer neighbour on the grid of `count` digits that rounds to the number, if one does. -/
def Interval.onGrid? (interval : Interval) (count : Nat) : Option Scaled :=
  let exponent := interval.magnitude - count + 1
  let numerator := interval.value * Nat.pow 10 (-exponent).toNat
  let denominator := interval.denominator * Nat.pow 10 exponent.toNat
  let below : Scaled := ⟨numerator / denominator, exponent⟩
  let above : Scaled := ⟨numerator / denominator + 1, exponent⟩
  let twice := 2 * (numerator % denominator)
  let nearest := if twice < denominator ∨ (twice = denominator ∧ below.digits % 2 = 0)
    then [below, above] else [above, below]
  nearest.find? interval.holds

def Scaled.trimmed : (fuel : Nat) → Scaled → Scaled
  | 0, decimal => decimal
  | fuel + 1, decimal =>
    if decimal.digits % 10 = 0 ∧ decimal.digits ≠ 0
    then Scaled.trimmed fuel ⟨decimal.digits / 10, decimal.exponent + 1⟩
    else decimal

/-- The shortest decimal that rounds to a positive number; seventeen digits always suffice. -/
def Dyadic.shortest (number : Dyadic) : Scaled :=
  let interval := number.interval
  (((List.range' 1 17).findSome? interval.onGrid?).getD ⟨0, 0⟩).trimmed 17

/-- How a decimal is laid out: in positional notation while its leading digit stands for a power of ten
within the two bounds, else with an exponent. -/
structure Layout where
  least : Int
  greatest : Int

/-- The digits of a positive decimal, laid out with at least one digit behind the point in positional
notation, and with an explicit sign in the exponent. -/
def Layout.render (layout : Layout) (decimal : Scaled) : List Char :=
  let row := digits decimal.digits
  let leading := decimal.exponent + row.length - 1
  if layout.least ≤ leading ∧ leading ≤ layout.greatest then
    if 0 ≤ decimal.exponent then row ++ List.replicate decimal.exponent.toNat '0' ++ ['.', '0']
    else if 0 ≤ leading then
      row.take (leading.toNat + 1) ++ ['.'] ++ row.drop (leading.toNat + 1)
    else ['0', '.'] ++ List.replicate (-leading - 1).toNat '0' ++ row
  else
    row.take 1 ++ (if row.length = 1 then [] else '.' :: row.drop 1) ++
      ['e', if leading < 0 then '-' else '+'] ++ digits leading.natAbs

end ScanCheck.Decimal
