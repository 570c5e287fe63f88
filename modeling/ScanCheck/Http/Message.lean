import ScanCheck.Text.Blank
import ScanCheck.Text.Utf8

namespace ScanCheck

inductive Method
  | get
  | post
deriving DecidableEq, Repr

def Method.name : Method → String
  | .get => "GET"
  | .post => "POST"

/-- A header field: a name and a value. -/
abbrev Header := String × String

/-- The value of the first field with a name, which is compared up to the case of ASCII letters. -/
def header? (headers : List Header) (name : String) : Option String :=
  (headers.find? fun field => Text.sameAscii field.1.toList name.toList).map (·.2)

structure Request where
  method : Method
  url : String
  headers : List Header
  body : Option String
deriving DecidableEq, Repr

def Request.header? (request : Request) (name : String) : Option String :=
  ScanCheck.header? request.headers name

structure Response where
  status : UInt16
  body : Bytes
deriving DecidableEq, Repr

def Response.text (response : Response) : String := response.body.text

end ScanCheck
