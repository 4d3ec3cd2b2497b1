import HttpTelemetry.Http.Method
/-!
# Header fields

A field name is a token, stored in lower case. A field value is any text without control
characters, tab aside; its bytes above ASCII are kept as they are. Only a value of visible
ASCII (and tabs) reads as text, which is what the host label and the content length need.
-/

namespace HttpTelemetry.Http

/-- The longest field name accepted, in bytes. -/
def maxHeaderNameLength : Nat := 65535

/-- The name a text gives a field, in lower case, if it is a token. -/
def headerName? (text : String) : Option String :=
  if !text.isEmpty && text.utf8ByteSize ≤ maxHeaderNameLength && text.all isTokenChar then
    some (text.map Char.toLower)
  else none

/-- A character allowed in a field value. -/
def isValueChar (c : Char) : Bool := c == '\t' || (32 ≤ c.toNat && c.toNat != 127)

/-- A character of a value that reads as text: visible ASCII or tab. -/
def isVisibleChar (c : Char) : Bool := c == '\t' || (32 ≤ c.toNat && c.toNat < 127)

/-- Header fields in the order they were added; a name may repeat. -/
abbrev Headers := List (String × String)

/-- The first value of a field. -/
def Headers.first? (hs : Headers) (name : String) : Option String :=
  (hs.find? (·.1 == name)).map (·.2)

/-- The first value of a field, if it reads as text. -/
def Headers.firstText? (hs : Headers) (name : String) : Option String :=
  match hs.first? name with
  | some v => if v.all isVisibleChar then some v else none
  | none => none

/-- A decimal `u64` the way such numbers are read: digits, one optional leading `+`, no
overflow. -/
def parseU64 (text : String) : Option Nat :=
  let digits := match text.toList with
    | '+' :: rest => rest
    | cs => cs
  if digits.isEmpty || !digits.all Char.isDigit then none
  else
    let n := digits.foldl (fun acc c => acc * 10 + (c.toNat - '0'.toNat)) 0
    if n < Nat.pow 2 64 then some n else none

end HttpTelemetry.Http
