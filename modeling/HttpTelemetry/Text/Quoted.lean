import HttpTelemetry.Unicode.Character
/-!
# Quoted debugging text

The debugging text of a string is the string between double quotes, with every character that
would be lost or misread escaped: the null character, tab, carriage return and line feed as
`\0`, `\t`, `\r`, `\n`; the backslash and the double quote with a backslash before them;
grapheme extenders and characters that are not printable as `\u{hex}` with lowercase digits
and no padding. Everything else stands for itself, so the single quote is not escaped.
-/

namespace HttpTelemetry.Text

open HttpTelemetry.Unicode

/-- Lowercase hexadecimal digits of a number, without padding. -/
def hexDigits (n : Nat) : List Char :=
  (Nat.toDigits 16 n).map Char.toLower

/-- The escaped form of one character inside quoted debugging text. -/
def escapeChar (c : Char) : List Char :=
  match c with
  | '\x00' => ['\\', '0']
  | '\t' => ['\\', 't']
  | '\r' => ['\\', 'r']
  | '\n' => ['\\', 'n']
  | '\\' => ['\\', '\\']
  | '"' => ['\\', '"']
  | _ =>
    if isGraphemeExtender c || !isPrintableChar c then
      ['\\', 'u', '\x7b'] ++ hexDigits c.toNat ++ ['\x7d']
    else [c]

/-- The quoted debugging text of a string. -/
def quote (s : String) : String :=
  String.ofList ('"' :: s.toList.flatMap escapeChar ++ ['"'])

end HttpTelemetry.Text
