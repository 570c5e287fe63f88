import ScanCheck.Json.Reader

namespace ScanCheck.Json

def skipString : Bytes → Except Fault Bytes
  | [] => .error .ended
  | byte :: rest =>
    if byte = 34 then .ok rest
    else if byte = 92 then
      match rest with
      | [] => .error .ended
      | escaped :: rest =>
        if escaped = 117 then
          match rest with
          | first :: second :: third :: fourth :: rest =>
            match hexUnit first second third fourth with
            | some _ => skipString rest
            | none => .error .malformed
          | _ => .error .ended
        else if (shortEscape escaped).isSome then skipString rest
        else .error .malformed
    else if byte < 32 then .error .malformed
    else skipString rest

def skipDigits : Bytes → Except Fault Bytes
  | [] => .error .malformed
  | byte :: rest => if isDigit byte then .ok (afterDigits rest) else .error .malformed

def skipExponent : Bytes → Except Fault Bytes
  | [] => .ok []
  | byte :: rest =>
    if byte = 101 ∨ byte = 69 then skipDigits (exponentSign rest).2 else .ok (byte :: rest)

def skipFraction : Bytes → Except Fault Bytes
  | [] => .ok []
  | byte :: rest =>
    if byte = 46 then do skipExponent (← skipDigits rest)
    else skipExponent (byte :: rest)

def skipNumber : Bytes → Except Fault Bytes
  | [] => .error .malformed
  | byte :: rest =>
    if byte = 48 then
      match rest with
      | [] => .ok []
      | next :: rest => if isDigit next then .error .malformed else skipFraction (next :: rest)
    else if isDigit byte then skipFraction (afterDigits rest)
    else .error .malformed

/-- A collection that has been opened and not yet closed. -/
inductive Frame
  | array
  | object
deriving DecidableEq, Repr

def Frame.closing : Frame → UInt8
  | .array => 93
  | .object => 125

/-- The bytes in front of the next value of a collection: in an object the name comes first. -/
def Frame.next (frame : Frame) (bytes : Bytes) : Except Fault Bytes :=
  match frame with
  | .array => .ok bytes
  | .object =>
    match skipBlanks bytes with
    | [] => .error .ended
    | byte :: rest =>
      if byte = 34 then do
        let rest ← skipString rest
        match skipBlanks rest with
        | [] => .error .ended
        | colon :: rest => if colon = 58 then .ok rest else .error .malformed
      else .error .malformed

/-- Where the skipping of a value stands: in front of a value, behind one, or behind an opening mark. -/
inductive Place
  | before
  | behind
  | inside
deriving DecidableEq, Repr

/-- Skips until all open collections are closed. Two rounds pass at most without consuming a byte. -/
def skipFrom : (rounds : Nat) → Place → List Frame → Bytes → Except Fault Bytes
  | 0, _, _, _ => .error .ended
  | rounds + 1, .before, frames, bytes =>
    match skipBlanks bytes with
    | [] => .error .ended
    | byte :: rest =>
      if byte = 110 then do skipFrom rounds .behind frames (← expectWord nullTail rest)
      else if byte = 116 then do skipFrom rounds .behind frames (← expectWord trueTail rest)
      else if byte = 102 then do skipFrom rounds .behind frames (← expectWord falseTail rest)
      else if byte = 45 then do skipFrom rounds .behind frames (← skipNumber rest)
      else if isDigit byte then do skipFrom rounds .behind frames (← skipNumber (byte :: rest))
      else if byte = 34 then do skipFrom rounds .behind frames (← skipString rest)
      else if byte = 91 then skipFrom rounds .inside (.array :: frames) rest
      else if byte = 123 then skipFrom rounds .inside (.object :: frames) rest
      else .error .malformed
  | _ + 1, .behind, [], bytes => .ok bytes
  | rounds + 1, .behind, frame :: frames, bytes =>
    match skipBlanks bytes with
    | [] => .error .ended
    | byte :: rest =>
      if byte = frame.closing then skipFrom rounds .behind frames rest
      else if byte = 44 then do skipFrom rounds .before (frame :: frames) (← frame.next rest)
      else .error .malformed
  | _ + 1, .inside, [], bytes => .ok bytes
  | rounds + 1, .inside, frame :: frames, bytes =>
    match skipBlanks bytes with
    | [] => .error .ended
    | byte :: rest =>
      if byte = frame.closing then skipFrom rounds .behind frames rest
      else do skipFrom rounds .before (frame :: frames) (← frame.next (byte :: rest))

def skipValue (bytes : Bytes) : Except Fault Bytes :=
  skipFrom (2 * bytes.length + 2) .before [] bytes

end ScanCheck.Json
