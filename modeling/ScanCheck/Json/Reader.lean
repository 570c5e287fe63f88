import ScanCheck.Json.Collection

namespace ScanCheck.Json

/-- A value whose items and members, if it may have any, are read by `nested`. -/
def valueWith (nested : Option (Reader Json)) : Reader Json := fun bytes =>
  match skipBlanks bytes with
  | [] => .error .ended
  | byte :: rest =>
    if byte = 110 then (expectWord nullTail rest).map fun rest => (.null, rest)
    else if byte = 116 then (expectWord trueTail rest).map fun rest => (.flag true, rest)
    else if byte = 102 then (expectWord falseTail rest).map fun rest => (.flag false, rest)
    else if byte = 45 then (numberTail true).map .number rest
    else if isDigit byte then (numberTail false).map .number (byte :: rest)
    else if byte = 34 then stringTail.map .text rest
    else if byte = 91 then
      match nested with
      | none => .error .malformed
      | some item => (items item).map .array rest
    else if byte = 123 then
      match nested with
      | none => .error .malformed
      | some item =>
        (members (fun entries name => .ok (item.map fun value => insertEntry name value entries)) []).map
          .object rest
    else .error .malformed

def valueWithin : (depth : Nat) → Reader Json
  | 0 => valueWith none
  | depth + 1 => valueWith (some (valueWithin depth))

def deepest : Nat := 127

def value : Reader Json := valueWithin deepest

/-- Reads a whole text: only blanks may follow. -/
def readAll {α : Type} (reader : Reader α) (bytes : Bytes) : Except Fault α := do
  let (result, rest) ← reader bytes
  match skipBlanks rest with
  | [] => .ok result
  | _ :: _ => .error .malformed

/-- The fault of bytes that hold a value of an unwanted type. A scalar is read to its end first. -/
def mistyped (bytes : Bytes) : Fault :=
  match skipBlanks bytes with
  | [] => .ended
  | byte :: rest =>
    if byte = 91 ∨ byte = 123 then .mistyped
    else
      match valueWith none (byte :: rest) with
      | .ok _ => .mistyped
      | .error fault => fault

end ScanCheck.Json
