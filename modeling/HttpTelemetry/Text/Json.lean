import HttpTelemetry.Text.Quoted
/-!
# JSON string text

A string as a JSON document writes it: between double quotes, with the double quote and the
backslash escaped, the control characters with a short escape (`\b`, `\t`, `\n`, `\f`, `\r`)
where there is one and as `\u00XX` with lowercase digits otherwise. Every other character,
`DEL` and non-ASCII included, stands for itself.
-/

namespace HttpTelemetry.Text

/-- The JSON form of one character inside a string. -/
def jsonEscapeChar (c : Char) : List Char :=
  match c with
  | '"' => ['\\', '"']
  | '\\' => ['\\', '\\']
  | '\x08' => ['\\', 'b']
  | '\t' => ['\\', 't']
  | '\n' => ['\\', 'n']
  | '\x0c' => ['\\', 'f']
  | '\r' => ['\\', 'r']
  | _ =>
    if c.toNat < 0x20 then
      let h := hexDigits c.toNat
      ['\\', 'u'] ++ List.replicate (4 - h.length) '0' ++ h
    else [c]

/-- A string as JSON text. -/
def jsonString (s : String) : String :=
  String.ofList ('"' :: s.toList.flatMap jsonEscapeChar ++ ['"'])

/-- A JSON object of string values, in the order given, without spaces. -/
def jsonObject (pairs : List (String × String)) : String :=
  "\x7b" ++ ",".intercalate (pairs.map fun (k, v) => jsonString k ++ ":" ++ jsonString v) ++ "\x7d"

end HttpTelemetry.Text
