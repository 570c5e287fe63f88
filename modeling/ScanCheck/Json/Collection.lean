import ScanCheck.Json.Token

/-!
# Arrays and objects

The punctuation of arrays and objects, for items and members of any kind. The readers take the bytes
behind the opening bracket or brace and stop behind the closing one. Every round of a loop consumes a
comma or the closing mark, so as many rounds as there are bytes are enough.
-/

namespace ScanCheck.Json

variable {α σ : Type}

/-- The items behind an item. A comma is followed by another item. -/
def itemsAfter (item : Reader α) : (rounds : Nat) → Reader (List α)
  | 0, _ => .error .ended
  | rounds + 1, bytes =>
    match skipBlanks bytes with
    | [] => .error .ended
    | byte :: rest =>
      if byte = 93 then .ok ([], rest)
      else if byte = 44 then
        match skipBlanks rest with
        | [] => .error .ended
        | next :: rest =>
          if next = 93 then .error .malformed
          else do
            let (first, rest) ← item (next :: rest)
            let (others, rest) ← itemsAfter item rounds rest
            .ok (first :: others, rest)
      else .error .malformed

def items (item : Reader α) : Reader (List α) := fun bytes =>
  match skipBlanks bytes with
  | [] => .error .ended
  | byte :: rest =>
    if byte = 93 then .ok ([], rest)
    else do
      let (first, rest) ← item (byte :: rest)
      let (others, rest) ← itemsAfter item rest.length rest
      .ok (first :: others, rest)

/-- What an object does with a member of some name, given what it has made of the members before it: it
names the reader of the member's value, or refuses the name before its value is looked at. -/
abbrev OnMember (σ : Type) := σ → String → Except Fault (Reader σ)

def member (onMember : OnMember σ) (state : σ) : Reader σ := fun bytes => do
  let (name, rest) ← stringTail bytes
  let value ← onMember state name
  match skipBlanks rest with
  | [] => .error .ended
  | byte :: rest => if byte = 58 then value rest else .error .malformed

def membersAfter (onMember : OnMember σ) : (rounds : Nat) → σ → Reader σ
  | 0, _, _ => .error .ended
  | rounds + 1, state, bytes =>
    match skipBlanks bytes with
    | [] => .error .ended
    | byte :: rest =>
      if byte = 125 then .ok (state, rest)
      else if byte = 44 then
        match skipBlanks rest with
        | [] => .error .ended
        | next :: rest =>
          if next = 34 then do
            let (state, rest) ← member onMember state rest
            membersAfter onMember rounds state rest
          else .error .malformed
      else .error .malformed

def members (onMember : OnMember σ) (state : σ) : Reader σ := fun bytes =>
  match skipBlanks bytes with
  | [] => .error .ended
  | byte :: rest =>
    if byte = 125 then .ok (state, rest)
    else if byte = 34 then do
      let (state, rest) ← member onMember state rest
      membersAfter onMember rest.length state rest
    else .error .malformed

end ScanCheck.Json
