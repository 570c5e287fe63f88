import ScanCheck.NameMap

namespace ScanCheck

/-- A number is an integer of at most 64 bits, signed or unsigned, or else a double. -/
inductive Number
  | integer (value : Int)
  | double (value : Float)

inductive Json
  | null
  | flag (value : Bool)
  | number (value : Number)
  | text (value : String)
  | array (items : List Json)
  | object (members : List (String × Json))

def Number.IsIntegral (value : Int) : Prop := -0x8000000000000000 ≤ value ∧ value < 0x10000000000000000

instance (value : Int) : Decidable (Number.IsIntegral value) :=
  inferInstanceAs (Decidable (_ ∧ _))

/-- The object of a list of members, where a later one takes the place of an earlier one. -/
def Json.ofMembers (members : List (String × Json)) : Json :=
  .object (members.foldl (fun entries member => insertEntry member.1 member.2 entries) [])

end ScanCheck
