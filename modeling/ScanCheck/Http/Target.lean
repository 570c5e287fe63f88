import ScanCheck.Json.Token
import ScanCheck.Text.Fields

namespace ScanCheck.Target

def withoutQuery (target : List Char) : List Char :=
  target.takeWhile fun char => !(char = '?' || char = '#')

/-- The segments of the path of a target, which may stand behind a scheme and an authority. -/
def path (target : List Char) : List (List Char) :=
  match Text.fields '/' (withoutQuery target) with
  | scheme :: [] :: authority :: rest =>
    if scheme.getLast? = some ':' then [] :: rest else scheme :: [] :: authority :: rest
  | whole => whole

def escapedByte? (high low : UInt8) : Option UInt8 :=
  match Json.hexValue high, Json.hexValue low with
  | some high, some low => some (UInt8.ofNat (high * 16 + low))
  | _, _ => none

/-- The bytes of a segment with its escapes resolved, once. A percent sign that opens no escape stands for
itself. -/
def unescape : Bytes → Bytes
  | [] => []
  | byte :: rest =>
    if byte = 37 then
      match rest with
      | high :: low :: others =>
        match escapedByte? high low with
        | some escaped => escaped :: unescape others
        | none => byte :: unescape (high :: low :: others)
      | short => byte :: short
    else byte :: unescape rest

end ScanCheck.Target
