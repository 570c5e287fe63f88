import ScanCheck.Text.Blank

namespace ScanCheck

structure MediaType where
  type : List Char
  subtype : List Char
  suffix : Option (List Char)
deriving DecidableEq, Repr

namespace MediaType

/-- Whether a character may stand in a type, a parameter name or an unquoted value. -/
def isToken (char : Char) : Bool :=
  ('a' ≤ char && char ≤ 'z') || ('A' ≤ char && char ≤ 'Z') || ('0' ≤ char && char ≤ '9') ||
    "!#$%&'*+-.^_`|~".toList.contains char

def isQuotable (char : Char) : Bool := char.toNat > 31 && char.toNat ≠ 127

/-- The text behind a quoted value and the blanks after it. An opening quote right behind the first one
does not close the value. -/
def quotedValue (source : List Char) : Option (List Char) :=
  let (skipped, rest) := match source with
    | '"' :: rest => (true, rest)
    | rest => (false, rest)
  let contents := rest.takeWhile fun char => char ≠ '"' && isQuotable char
  if !skipped && contents.isEmpty then none
  else
    match rest.drop contents.length with
    | '"' :: rest => some (rest.dropWhile (· = ' '))
    | _ => none

def parameterValue (source : List Char) : Option (List Char) :=
  match source with
  | '"' :: rest => quotedValue rest
  | _ =>
    let value := source.takeWhile isToken
    let rest := source.drop value.length
    if value.isEmpty && !rest.isEmpty then none else some rest

def parameters : (rounds : Nat) → List Char → Bool
  | 0, _ => false
  | rounds + 1, source =>
    match source.dropWhile (· = ' ') with
    | [] => true
    | source =>
      let name := source.takeWhile isToken
      match name.isEmpty, source.drop name.length with
      | false, '=' :: rest =>
        match parameterValue rest with
        | some [] => true
        | some (';' :: rest) => parameters rounds rest
        | _ => false
      | _, _ => false

/-- A subtype and its suffix, which stands behind the last plus sign but not at the front. -/
def splitSuffix (name : List Char) : List Char × Option (List Char) :=
  let suffix := (name.reverse.takeWhile (· ≠ '+')).reverse
  let front := name.take (name.length - suffix.length - 1)
  if suffix.length < name.length ∧ front ≠ [] then (front, some suffix) else (name, none)

def parse? (source : List Char) : Option MediaType :=
  let type := source.takeWhile isToken
  match type.isEmpty, source.drop type.length with
  | false, '/' :: rest =>
    let name := rest.takeWhile isToken
    let behind := rest.drop name.length
    let wellFormed := match behind with
      | [] => true
      | ';' :: rest => !name.isEmpty && parameters (rest.length + 1) rest
      | _ => false
    if wellFormed then
      let (subtype, suffix) := splitSuffix (name.map Text.foldAscii)
      some { type := type.map Text.foldAscii, subtype, suffix }
    else none
  | _, _ => none

def isJson (mediaType : MediaType) : Bool :=
  mediaType.type = "application".toList &&
    (mediaType.subtype = "json".toList || mediaType.suffix = some "json".toList)

end MediaType

end ScanCheck
