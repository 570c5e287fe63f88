import ScanCheck.Toml.Value

namespace ScanCheck.Toml

abbrev Reader (α : Type) := List Char → Option (α × List Char)

def isSpace (char : Char) : Bool := char = ' ' || char = '\t'

/-- Whether a character may stand in a comment or a literal string: every one but the controls other
than the tab. -/
def isPlain (char : Char) : Bool :=
  char = '\t' || (char.toNat ≥ 0x20 && char.toNat ≠ 0x7F)

def skipSpaces (source : List Char) : List Char := source.dropWhile isSpace

def lineBreak? : List Char → Option (List Char)
  | '\n' :: rest => some rest
  | '\r' :: '\n' :: rest => some rest
  | _ => none

def skipComment : List Char → Option (List Char)
  | '#' :: rest =>
    let behind := rest.dropWhile isPlain
    if behind.isEmpty || (lineBreak? behind).isSome then some behind else none
  | source => some source

def endLine (source : List Char) : Option (List Char) := do
  let rest ← skipComment (skipSpaces source)
  if rest.isEmpty then some [] else lineBreak? rest

def skipLines : (rounds : Nat) → List Char → Option (List Char)
  | 0, source => some source
  | rounds + 1, source => do
    let rest ← skipComment (skipSpaces source)
    match lineBreak? rest with
    | some next => skipLines rounds next
    | none => some rest

def skipTrivia (source : List Char) : Option (List Char) := skipLines (source.length + 1) source

def hexValue (char : Char) : Option Nat :=
  if '0' ≤ char ∧ char ≤ '9' then some (char.toNat - '0'.toNat)
  else if 'a' ≤ char ∧ char ≤ 'f' then some (char.toNat - 'a'.toNat + 10)
  else if 'A' ≤ char ∧ char ≤ 'F' then some (char.toNat - 'A'.toNat + 10)
  else none

/-- A character given by a fixed number of hexadecimal digits. Surrogates are no characters. -/
def numberedChar (count : Nat) (source : List Char) : Option (Char × List Char) := do
  let row := source.take count
  if row.length < count then none
  else
    let code ← row.foldlM (fun total char => (hexValue char).map (total * 16 + ·)) 0
    if code.isValidChar then some (Char.ofNat code, source.drop count) else none

def escape : Reader Char
  | 'b' :: rest => some ('\x08', rest)
  | 't' :: rest => some ('\t', rest)
  | 'n' :: rest => some ('\n', rest)
  | 'f' :: rest => some ('\x0c', rest)
  | 'r' :: rest => some ('\r', rest)
  | 'e' :: rest => some ('\x1b', rest)
  | '"' :: rest => some ('"', rest)
  | '\\' :: rest => some ('\\', rest)
  | 'x' :: rest => numberedChar 2 rest
  | 'u' :: rest => numberedChar 4 rest
  | 'U' :: rest => numberedChar 8 rest
  | _ => none

def basicTail : (rounds : Nat) → Reader (List Char)
  | 0, _ => none
  | _ + 1, [] => none
  | rounds + 1, char :: rest =>
    if char = '"' then some ([], rest)
    else if char = '\\' then do
      let (meant, rest) ← escape rest
      let (others, rest) ← basicTail rounds rest
      some (meant :: others, rest)
    else if isPlain char then do
      let (others, rest) ← basicTail rounds rest
      some (char :: others, rest)
    else none

def literalTail (source : List Char) : Option (List Char × List Char) :=
  let contents := source.takeWhile fun char => char ≠ '\'' && isPlain char
  match source.drop contents.length with
  | '\'' :: rest => some (contents, rest)
  | _ => none

def skipBreaks : (rounds : Nat) → List Char → List Char
  | 0, source => source
  | rounds + 1, source =>
    match lineBreak? (skipSpaces source) with
    | some rest => skipBreaks rounds rest
    | none => skipSpaces source

/-- The text behind a backslash at the end of a line: all blanks and line breaks are passed over. -/
def skipFold (source : List Char) : Option (List Char) :=
  (lineBreak? (skipSpaces source)).map fun rest => skipBreaks (rest.length + 1) rest

/-- A string of several lines behind its opening quotes. Up to two quotes may stand before the closing
three. Without escapes a backslash is a character like any other. -/
def blockTail (quote : Char) (escapes : Bool) : (rounds : Nat) → Reader (List Char)
  | 0, _ => none
  | _ + 1, [] => none
  | rounds + 1, char :: rest =>
    if char = quote then
      let run := (char :: rest).takeWhile (· = quote)
      let behind := (char :: rest).dropWhile (· = quote)
      if 3 ≤ run.length then
        let kept := min (run.length - 3) 2
        some (List.replicate kept quote, List.replicate (run.length - 3 - kept) quote ++ behind)
      else do
        let (others, rest) ← blockTail quote escapes rounds behind
        some (run ++ others, rest)
    else if char = '\\' && escapes then
      match skipFold rest with
      | some rest => blockTail quote escapes rounds rest
      | none => do
        let (meant, rest) ← escape rest
        let (others, rest) ← blockTail quote escapes rounds rest
        some (meant :: others, rest)
    else if char = '\r' then
      match rest with
      | '\n' :: rest => do
        let (others, rest) ← blockTail quote escapes rounds rest
        some ('\r' :: '\n' :: others, rest)
      | _ => none
    else if char = '\n' || isPlain char then do
      let (others, rest) ← blockTail quote escapes rounds rest
      some (char :: others, rest)
    else none

/-- A string of several lines: a line break right behind the opening quotes does not count. -/
def block (quote : Char) (escapes : Bool) : Reader (List Char) := fun source =>
  blockTail quote escapes (source.length + 1) ((lineBreak? source).getD source)

def string : Reader String
  | '"' :: '"' :: '"' :: rest => (block '"' true rest).map fun (chars, rest) => (String.ofList chars, rest)
  | '\'' :: '\'' :: '\'' :: rest =>
    (block '\'' false rest).map fun (chars, rest) => (String.ofList chars, rest)
  | '"' :: rest =>
    (basicTail (rest.length + 1) rest).map fun (chars, rest) => (String.ofList chars, rest)
  | '\'' :: rest => (literalTail rest).map fun (chars, rest) => (String.ofList chars, rest)
  | _ => none

def isBare (char : Char) : Bool :=
  ('a' ≤ char && char ≤ 'z') || ('A' ≤ char && char ≤ 'Z') || Decimal.isDigit char ||
    char = '_' || char = '-'

def keyPart : Reader String
  | '"' :: '"' :: '"' :: _ => none
  | '\'' :: '\'' :: '\'' :: _ => none
  | '"' :: rest => string ('"' :: rest)
  | '\'' :: rest => string ('\'' :: rest)
  | source =>
    let bare := source.takeWhile isBare
    if bare.isEmpty then none else some (String.ofList bare, source.drop bare.length)

def keyParts : (rounds : Nat) → Reader (List String)
  | 0, _ => none
  | rounds + 1, source =>
    match skipSpaces source with
    | '.' :: rest => do
      let (part, rest) ← keyPart (skipSpaces rest)
      let (others, rest) ← keyParts rounds rest
      some (part :: others, rest)
    | rest => some ([], rest)

/-- The way to an entry: the tables it is in, outermost first, and its own name. -/
structure Path where
  tables : List String
  name : String
deriving DecidableEq, Repr

def Path.ofParts (first : String) : List String → Path
  | [] => ⟨[], first⟩
  | second :: rest =>
    let inner := Path.ofParts second rest
    ⟨first :: inner.tables, inner.name⟩

/-- How deep tables and arrays may nest, be it by the dots of one key or by brackets. -/
def deepest : Nat := 80

def path : Reader Path := fun source => do
  let (first, rest) ← keyPart source
  let (others, rest) ← keyParts (rest.length + 1) rest
  if deepest ≤ others.length then none else some (Path.ofParts first others, rest)

end ScanCheck.Toml
