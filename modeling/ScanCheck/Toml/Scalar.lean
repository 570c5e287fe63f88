import ScanCheck.Toml.Token

/-!
# Numbers, dates and words

The values of TOML that have no delimiters of their own. Such a value is a word: it goes up to the next
punctuation mark or the end of its line, blanks inside included. What a word means is decided by its first
characters, and only then by the rest. Of a word that turns out an integer by its first underscore, the
reader checks no more than leading zeros and underscores.
-/

namespace ScanCheck.Toml

def rowValue (base : Nat) (row : List Nat) : Nat := row.foldl (fun total digit => total * base + digit) 0

def digitBelow (base : Nat) (char : Char) : Option Nat := (hexValue char).filter (· < base)

def digitRow (base : Nat) (source : List Char) : List Nat := source.filterMap (digitBelow base)

def isRow (base : Nat) (source : List Char) : Bool :=
  source.all fun char => char = '_' || (digitBelow base char).isSome

/-- Whether every underscore stands between two digits of a base. `joined` says whether the text is behind
a digit. -/
def spaced (base : Nat) : (joined : Bool) → List Char → Bool
  | _, [] => true
  | joined, char :: rest =>
    if char = '_' then
      joined && rest.head?.any (digitBelow base · |>.isSome) && spaced base false rest
    else spaced base (digitBelow base char).isSome rest

def sign : List Char → Option Char × List Char
  | '-' :: rest => (some '-', rest)
  | '+' :: rest => (some '+', rest)
  | source => (none, source)

def signed (mark : Option Char) (magnitude : Nat) : Int :=
  if mark = some '-' then -Int.ofNat magnitude else Int.ofNat magnitude

/-- The value of the integer whose digits stand behind the mark of a base. -/
def based (base : Nat) (source : List Char) : Option Toml :=
  if source.isEmpty then some .misspelt
  else if isRow base source ∧ spaced base false source then
    some (.integer (rowValue base (digitRow base source)))
  else none

/-- The digits at the front of a text, with underscores among them. There is at least one, and no
superfluous zero in front unless `padded` allows it. -/
def digitsAhead (padded : Bool) : Reader (List Nat) := fun source =>
  let run := source.takeWhile fun char => Decimal.isDigit char || char = '_'
  let row := digitRow 10 run
  if row.isEmpty ∨ (!padded ∧ 1 < row.length ∧ run.head? = some '0') then none
  else some (row, source.drop run.length)

/-- Whether `significand · 10 ^ exponent` is rounded to a finite double. Exponents far from the limit are
decided without computing the power. -/
def fitsDouble (significand : Nat) (exponent : Int) : Bool :=
  let leading := exponent + (Decimal.digits significand).length
  if significand = 0 ∨ leading < 300 then true
  else if 320 < leading then false
  else
    let limit := Nat.pow 2 1024 - Nat.pow 2 970
    significand * Nat.pow 10 exponent.toNat < limit * Nat.pow 10 (-exponent).toNat

def fraction : Reader (List Nat)
  | '.' :: rest => digitsAhead true rest
  | source => some ([], source)

def exponent : Reader Int
  | [] => some (0, [])
  | letter :: rest =>
    if letter = 'e' ∨ letter = 'E' then do
      let (mark, rest) := sign rest
      let (row, rest) ← digitsAhead true rest
      some (signed mark (rowValue 10 row), rest)
    else none

/-- Whether the text behind a sign is a float, and then whether its size is that of a double. -/
def float? (body : List Char) : Option Bool := do
  let (whole, rest) ← digitsAhead false body
  let (places, rest) ← fraction rest
  let (power, rest) ← exponent rest
  if rest.isEmpty ∧ spaced 10 false body then
    some (fitsDouble (rowValue 10 (whole ++ places)) (power - places.length))
  else none

/-- A decimal number behind its sign. Behind its first digits it is a float if a point or the letter of an
exponent follows somewhere, and an integer if nothing or an underscore follows. From there on the underscores
of an integer may stand between the letters of hexadecimal digits as well, so that it is misspelt and not
malformed. -/
def decimal? (mark : Option Char) (body : List Char) : Option Toml :=
  let behind := body.dropWhile Decimal.isDigit
  if !body.head?.any Decimal.isDigit then none
  else if behind.head? = some '-' ∨ behind.head? = some ':' ∨ ' ' ∈ behind then none
  else if behind.any (['.', 'e', 'E'].contains ·) then (float? body).map .float
  else if !(behind.isEmpty || behind.head? = some '_') then none
  else if body.head? = some '0' ∧ 1 < body.length then none
  else if !spaced 16 false body then none
  else if isRow 10 body then some (.integer (signed mark (rowValue 10 (digitRow 10 body))))
  else some .misspelt

def twoDigits : Reader Nat
  | first :: second :: rest => do
    some ((← digitBelow 10 first) * 10 + (← digitBelow 10 second), rest)
  | _ => none

def daysIn (year month : Nat) : Nat :=
  if month = 2 then
    if year % 4 = 0 ∧ (year % 100 ≠ 0 ∨ year % 400 = 0) then 29 else 28
  else if month = 4 ∨ month = 6 ∨ month = 9 ∨ month = 11 then 30
  else 31

def date (source : List Char) : Option (List Char) := do
  let (century, rest) ← twoDigits source
  let (year, rest) ← twoDigits rest
  match rest with
  | '-' :: rest =>
    let (month, rest) ← twoDigits rest
    match rest with
    | '-' :: rest =>
      let (day, rest) ← twoDigits rest
      if 1 ≤ month ∧ month ≤ 12 ∧ 1 ≤ day ∧ day ≤ daysIn (century * 100 + year) month then some rest
      else none
    | _ => none
  | _ => none

def secondsFraction : List Char → Option (List Char)
  | '.' :: rest =>
    if (rest.takeWhile Decimal.isDigit).isEmpty then none else some (rest.dropWhile Decimal.isDigit)
  | source => some source

/-- The text behind a time. The seconds may be left out. -/
def time (source : List Char) : Option (List Char) := do
  let (hour, rest) ← twoDigits source
  match rest with
  | ':' :: rest =>
    let (minute, rest) ← twoDigits rest
    if 23 < hour ∨ 59 < minute then none
    else
      match rest with
      | ':' :: rest =>
        let (second, rest) ← twoDigits rest
        if 60 < second then none else secondsFraction rest
      | rest => some rest
  | _ => none

/-- The text behind the distance from universal time, of less than a day. -/
def offset : List Char → Option (List Char)
  | 'Z' :: rest | 'z' :: rest => some rest
  | '+' :: source | '-' :: source => do
    let (hour, rest) ← twoDigits source
    match rest with
    | ':' :: rest =>
      let (minute, rest) ← twoDigits rest
      if 23 < hour ∨ 59 < minute then none else some rest
    | _ => none
  | source => some source

def isMoment (word : List Char) : Bool :=
  match date word with
  | some [] => true
  | some (separator :: rest) =>
    if separator = 'T' ∨ separator = 't' ∨ separator = ' ' then
      ((time rest).bind offset) = some []
    else false
  | none => time word = some []

/-- The characters that end a word. Quotes are not among them, since they open a string only at the front. -/
def wordEnds : List Char := ['=', ',', '[', ']', '\x7b', '\x7d', ' ', '\t', '#', '\r', '\n']

def isWordChar (char : Char) : Bool := !wordEnds.contains char

/-- Whether a word goes on behind the blanks at the front of a text. It does not with a string. -/
def continues (source : List Char) : Bool :=
  (source.dropWhile isSpace).head?.any fun next =>
    isWordChar next && next != '.' && next != '"' && next != '\''

def takeWord : List Char → List Char × List Char
  | [] => ([], [])
  | char :: rest =>
    if isWordChar char || (isSpace char && continues rest) then
      let (others, behind) := takeWord rest
      (char :: others, behind)
    else ([], char :: rest)

def word? (word : List Char) : Option Toml :=
  if word = ['t', 'r', 'u', 'e'] then some (.flag true)
  else if word = ['f', 'a', 'l', 's', 'e'] then some (.flag false)
  else if isMoment word then some .moment
  else
    match word with
    | '0' :: 'x' :: digits => based 16 digits
    | '0' :: 'o' :: digits => based 8 digits
    | '0' :: 'b' :: digits => based 2 digits
    | word =>
      let (mark, body) := sign word
      if body = ['i', 'n', 'f'] ∨ body = ['n', 'a', 'n'] then some (.float true)
      else decimal? mark body

def scalar : Reader Toml := fun source =>
  let (word, rest) := takeWord source
  (word? word).map fun value => (value, rest)

end ScanCheck.Toml
