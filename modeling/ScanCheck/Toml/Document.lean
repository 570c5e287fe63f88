import ScanCheck.Toml.Scalar
import ScanCheck.Toml.Table

namespace ScanCheck.Toml

/-- Entries separated by commas and closed by a mark, among blanks, line breaks and comments. -/
def separated {α : Type} (entry : Reader α) (closing : Char) : (rounds : Nat) → Reader (List α)
  | 0, _ => none
  | rounds + 1, source => do
    match ← skipTrivia source with
    | [] => none
    | char :: rest =>
      if char = closing then some ([], rest)
      else
        let (first, rest) ← entry (char :: rest)
        match ← skipTrivia rest with
        | [] => none
        | mark :: rest =>
          if mark = closing then some ([first], rest)
          else if mark = ',' then do
            let (others, rest) ← separated entry closing rounds rest
            some (first :: others, rest)
          else none

/-- A key with its value. What `skip` passes over may stand around the equals sign. -/
def binding (skip : List Char → Option (List Char)) (value : Reader Toml) : Reader (Path × Toml) :=
  fun source => do
    let (path, rest) ← path source
    match ← skip rest with
    | '=' :: rest =>
      let (bound, rest) ← value (← skip rest)
      some ((path, bound), rest)
    | _ => none

def inlineTable (bindings : List (Path × Toml)) : Option Toml := do
  let entries ← bindings.foldlM (fun entries binding => assign binding.1 binding.2 entries) []
  some (.table (finish entries))

/-- A value whose items and entries, if it may have any, are read by `nested`. -/
def valueWith (nested : Option (Reader Toml)) : Reader Toml
  | '[' :: rest => do
    let (items, rest) ← separated (← nested) ']' (rest.length + 1) rest
    some (.array items, rest)
  | '\x7b' :: rest => do
    let (bindings, rest) ← separated (binding skipTrivia (← nested)) '\x7d' (rest.length + 1) rest
    some (← inlineTable bindings, rest)
  | '"' :: rest => (string ('"' :: rest)).map fun (decoded, rest) => (.text decoded, rest)
  | '\'' :: rest => (string ('\'' :: rest)).map fun (decoded, rest) => (.text decoded, rest)
  | source => scalar source

/-- A value with at most `depth` arrays and inline tables around each other. -/
def valueWithin : (depth : Nat) → Reader Toml
  | 0 => valueWith none
  | depth + 1 => valueWith (some (valueWithin depth))

inductive Line
  | header (header : Header)
  | binding (path : Path) (value : Toml)

def line : Reader Line
  | '[' :: '[' :: rest => do
    let (path, rest) ← path (skipSpaces rest)
    match rest with
    | ']' :: ']' :: rest => some (.header ⟨path, true⟩, rest)
    | _ => none
  | '[' :: rest => do
    let (path, rest) ← path (skipSpaces rest)
    match rest with
    | ']' :: rest => some (.header ⟨path, false⟩, rest)
    | _ => none
  | source => do
    let ((path, value), rest) ← binding (fun rest => some (skipSpaces rest)) (valueWithin deepest) source
    some (.binding path value, rest)

def lines : (rounds : Nat) → List Char → Option (List Line)
  | 0, _ => none
  | rounds + 1, source => do
    match ← skipTrivia source with
    | [] => some []
    | source =>
      let (first, rest) ← line source
      let others ← lines rounds (← endLine rest)
      some (first :: others)

def Draft.apply (draft : Draft) : Line → Option Draft
  | .header header => draft.enter header
  | .binding path value => draft.add path value

def dropMark : List Char → List Char
  | '\uFEFF' :: rest => rest
  | source => source

def parse? (source : String) : Option (List (String × Toml)) := do
  let chars := dropMark source.toList
  let lines ← lines (chars.length + 1) chars
  let draft ← lines.foldlM Draft.apply Draft.empty
  some (finish (← draft.close))

end ScanCheck.Toml
