import ScanCheck.Decimal.Natural

/-!
# TOML values

The values of a TOML document. Dates and times and the digits of floats are checked by the reader and have
no further meaning here: of a float only its size matters, since a float too large for a double cannot be
used. The digits of an integer are not all checked by the reader, so that a word may pass for an integer
without being one. Nobody can use such a word, but as long as nobody looks at it, it does no harm.
-/

namespace ScanCheck

inductive Toml
  | text (value : String)
  | integer (value : Int)
  | misspelt
  | float (representable : Bool)
  | flag (value : Bool)
  | moment
  | array (items : List Toml)
  | table (entries : List (String × Toml))

namespace Toml

def leastInteger : Int := -0x80000000000000000000000000000000

def integerLimit : Int := 0x100000000000000000000000000000000

mutual

/-- Whether a value that nobody asks for can be passed over: its numbers have to be usable ones. -/
def passable : Toml → Bool
  | .text _ | .flag _ | .moment => true
  | .integer value => leastInteger ≤ value && value < integerLimit
  | .misspelt => false
  | .float representable => representable
  | .array items => passableItems items
  | .table entries => passableEntries entries

@[inherit_doc passable]
def passableItems : List Toml → Bool
  | [] => true
  | item :: rest => item.passable && passableItems rest

@[inherit_doc passable]
def passableEntries : List (String × Toml) → Bool
  | [] => true
  | (_, value) :: rest => value.passable && passableEntries rest

end

end Toml

end ScanCheck
