import ScanCheck.Json.Collection
import ScanCheck.Proofs.Json.Strings

namespace ScanCheck.Json

/-- Whether a byte right behind a number would be taken for a part of it. -/
def continuesNumber (byte : UInt8) : Bool := isDigit byte || byte == 46 || byte == 101 || byte == 69

/-- What follows a text cannot be taken for a part of it. -/
def Delimited (rest : Bytes) : Prop := ∀ byte ∈ rest.head?, continuesNumber byte = false

theorem delimited_cons {byte : UInt8} (mark : continuesNumber byte = false) (rest : Bytes) :
    Delimited (byte :: rest) := by
  simpa [Delimited] using mark

theorem delimited_nil : Delimited [] := by
  simp [Delimited]

theorem skipBlanks_cons (byte : UInt8) (visible : isBlank byte = false) (rest : Bytes) :
    skipBlanks (byte :: rest) = byte :: rest := by
  simp [skipBlanks, visible]

/-- Texts with a comma before each of them. -/
def separated (texts : List (List Char)) : List Char := texts.flatMap fun text => ',' :: text

theorem commas_cons (first : List Char) (others : List (List Char)) :
    commas (first :: others) = first ++ separated others := by
  unfold separated
  induction others generalizing first with
  | nil => simp [commas]
  | cons second others ih => simp [commas, ih]

theorem encode_separated_cons (first : List Char) (others : List (List Char)) :
    Utf8.encode (separated (first :: others)) = 44 :: (Utf8.encode first ++ Utf8.encode (separated others)) := by
  rw [separated, List.flatMap_cons, Utf8.encode_append]
  rfl

theorem encode_bracketed (texts : List (List Char)) :
    Utf8.encode (bracketed texts) = 91 :: (Utf8.encode (commas texts) ++ [93]) := by
  rw [bracketed, Utf8.encode_append, Utf8.encode_append]
  rfl

def memberText (entry : String × List Char) : List Char := quote entry.1 ++ [':'] ++ entry.2

theorem encode_memberText (entry : String × List Char) :
    Utf8.encode (memberText entry) =
      34 :: (Utf8.encode (entry.1.toList.flatMap quoteChar) ++ 34 :: 58 :: Utf8.encode entry.2) := by
  rw [memberText, Utf8.encode_append, Utf8.encode_append, encode_quote]
  simp only [List.cons_append, List.append_assoc, List.nil_append]
  rfl

theorem encode_braced (entries : List (String × List Char)) :
    Utf8.encode (braced entries) = 123 :: (Utf8.encode (commas (entries.map memberText)) ++ [125]) := by
  change Utf8.encode (['\x7b'] ++ commas (entries.map memberText) ++ ['\x7d']) = _
  rw [Utf8.encode_append, Utf8.encode_append]
  rfl

end ScanCheck.Json
