import HttpTelemetry.Pattern.Syntax
/-!
# Pattern errors

Why a pattern is refused, and the text that says so. A refused pattern is either malformed,
with the span of the offending text (and, for a duplicate, the span of the first occurrence),
or too large to compile within the size limit.

The text of a malformed pattern shows the pattern with carets under the span:

```text
regex parse error:
    ^(?:/bad/[)$
             ^
error: unclosed character class
```

A pattern of several lines is shown between two rules of 79 tildes, each line numbered, and
a span over several lines is noted by its first and last line and column.
-/

namespace HttpTelemetry.Pattern

/-- The causes of a malformed pattern. -/
inductive ErrorKind where
  | classEscapeInvalid
  | classRangeInvalid
  | classRangeLiteral
  | classUnclosed
  | decimalEmpty
  | decimalInvalid
  | escapeHexEmpty
  | escapeHexInvalid
  | escapeHexInvalidDigit
  | escapeUnexpectedEof
  | escapeUnrecognized
  | flagDanglingNegation
  | flagDuplicate (original : Span)
  | flagRepeatedNegation (original : Span)
  | flagUnexpectedEof
  | flagUnrecognized
  | groupNameDuplicate (original : Span)
  | groupNameEmpty
  | groupNameInvalid
  | groupNameUnexpectedEof
  | groupUnclosed
  | groupUnopened
  | nestLimitExceeded (limit : Nat)
  | repetitionCountInvalid
  | repetitionCountDecimalEmpty
  | repetitionCountUnclosed
  | repetitionMissing
  | specialWordBoundaryUnclosed
  | specialWordBoundaryUnrecognized
  | specialWordOrRepetitionUnexpectedEof
  | unicodeClassInvalid
  | unsupportedBackreference
  | unsupportedLookAround
  | unicodeNotAllowed
  | invalidUtf8
  | unicodePropertyNotFound
  | unicodePropertyValueNotFound
  deriving Repr

/-- The sentence that names a cause. -/
def ErrorKind.message : ErrorKind → String
  | .classEscapeInvalid => "invalid escape sequence found in character class"
  | .classRangeInvalid => "invalid character class range, the start must be <= the end"
  | .classRangeLiteral => "invalid range boundary, must be a literal"
  | .classUnclosed => "unclosed character class"
  | .decimalEmpty => "decimal literal empty"
  | .decimalInvalid => "decimal literal invalid"
  | .escapeHexEmpty => "hexadecimal literal empty"
  | .escapeHexInvalid => "hexadecimal literal is not a Unicode scalar value"
  | .escapeHexInvalidDigit => "invalid hexadecimal digit"
  | .escapeUnexpectedEof => "incomplete escape sequence, reached end of pattern prematurely"
  | .escapeUnrecognized => "unrecognized escape sequence"
  | .flagDanglingNegation => "dangling flag negation operator"
  | .flagDuplicate _ => "duplicate flag"
  | .flagRepeatedNegation _ => "flag negation operator repeated"
  | .flagUnexpectedEof => "expected flag but got end of regex"
  | .flagUnrecognized => "unrecognized flag"
  | .groupNameDuplicate _ => "duplicate capture group name"
  | .groupNameEmpty => "empty capture group name"
  | .groupNameInvalid => "invalid capture group character"
  | .groupNameUnexpectedEof => "unclosed capture group name"
  | .groupUnclosed => "unclosed group"
  | .groupUnopened => "unopened group"
  | .nestLimitExceeded limit =>
    "exceed the maximum number of nested parentheses/brackets (" ++ toString limit ++ ")"
  | .repetitionCountInvalid => "invalid repetition count range, the start must be <= the end"
  | .repetitionCountDecimalEmpty => "repetition quantifier expects a valid decimal"
  | .repetitionCountUnclosed => "unclosed counted repetition"
  | .repetitionMissing => "repetition operator missing expression"
  | .specialWordBoundaryUnclosed =>
    "special word boundary assertion is either unclosed or contains an invalid character"
  | .specialWordBoundaryUnrecognized =>
    "unrecognized special word boundary assertion, valid choices are: start, end, start-half or end-half"
  | .specialWordOrRepetitionUnexpectedEof =>
    "found either the beginning of a special word boundary or a bounded repetition on a \\b with an opening brace, but no closing brace"
  | .unicodeClassInvalid => "invalid Unicode character class"
  | .unsupportedBackreference => "backreferences are not supported"
  | .unsupportedLookAround => "look-around, including look-ahead and look-behind, is not supported"
  | .unicodeNotAllowed => "Unicode not allowed here"
  | .invalidUtf8 => "pattern can match invalid UTF-8"
  | .unicodePropertyNotFound => "Unicode property not found"
  | .unicodePropertyValueNotFound => "Unicode property value not found"

/-- The second span an error points at: the first occurrence of a duplicate. -/
def ErrorKind.auxSpan : ErrorKind → Option Span
  | .flagDuplicate s | .flagRepeatedNegation s | .groupNameDuplicate s => some s
  | _ => none

/-- Why a pattern is refused. -/
inductive Error where
  /-- The pattern text (as compiled) is malformed at a span. -/
  | malformed (pattern : String) (kind : ErrorKind) (span : Span)
  /-- The compiled automaton would need more than `limit` bytes. -/
  | tooLarge (limit : Nat)
  deriving Repr

/-- A position as a line and a column, both counted from one. -/
structure LineColumn where
  line : Nat
  column : Nat
  deriving Repr, DecidableEq

/-- The line and column of a character position. -/
def lineColumn (chars : List Char) (pos : Nat) : LineColumn :=
  let before := chars.take pos
  { line := 1 + before.count '\n'
    column := 1 + (before.reverse.takeWhile (· ≠ '\n')).length }

/-- The lines of a text: split at line feeds, a carriage return before a line feed dropped,
and no empty last line after a final line feed. -/
def textLines (s : String) : List String :=
  let pieces := s.splitOn "\n"
  let pieces := if s.endsWith "\n" then pieces.dropLast else pieces
  let pieces := if s.isEmpty then [] else pieces
  pieces.map fun l => if l.endsWith "\r" then String.ofList (l.toList.dropLast) else l

/-- A span with its lines and columns. -/
structure Placed where
  span : Span
  start : LineColumn
  stop : LineColumn

/-- The decimal text of a line number, padded on the left to `width`. -/
def padNumber (width n : Nat) : String :=
  let digits := toString n
  String.ofList (List.replicate (width - digits.length) ' ') ++ digits

/-- The caret line under one line of the pattern: `indent` blanks, then for each span, blanks
up to its column and at least one caret. -/
def caretLine (indent : Nat) (spans : List Placed) : String :=
  let step := fun (acc : List Char × Nat) (p : Placed) =>
    let (out, col) := acc
    let gap := p.start.column - 1 - col
    let carets := max 1 (p.stop.column - p.start.column)
    (out ++ List.replicate gap ' ' ++ List.replicate carets '^', col + gap + carets)
  String.ofList (List.replicate indent ' ' ++ (spans.foldl step ([], 0)).1)

/-- The pattern with every one-line span marked under its line. -/
def notate (lines : List String) (width : Nat) (spans : List Placed) : String :=
  let indent := if width == 0 then 4 else 2 + width
  let numbered := (List.range lines.length).zip lines
  String.join <| numbered.map fun (i, line) =>
    let label := if width == 0 then "    " else padNumber width (i + 1) ++ ": "
    let here := spans.filter (fun p => p.start.line == i + 1)
    label ++ line ++ "\n" ++ (if here.isEmpty then "" else caretLine indent here ++ "\n")

/-- The message of a malformed pattern. -/
def renderMalformed (pattern : String) (kind : ErrorKind) (span : Span) : String :=
  let chars := pattern.toList
  let place := fun (s : Span) => Placed.mk s (lineColumn chars s.start) (lineColumn chars s.stop)
  let all := (span :: kind.auxSpan.toList).map place
  let sorted := all.mergeSort fun a b =>
    a.span.start < b.span.start || (a.span.start == b.span.start && a.span.stop ≤ b.span.stop)
  let oneLine := sorted.filter (fun p => p.start.line == p.stop.line)
  let multiLine := sorted.filter (fun p => p.start.line != p.stop.line)
  let lines := textLines pattern
  let lineCount := lines.length + (if pattern.endsWith "\n" then 1 else 0)
  let width := if lineCount ≤ 1 then 0 else (toString lineCount).length
  let body := notate lines width oneLine
  if pattern.contains '\n' then
    let rule := String.ofList (List.replicate 79 '~')
    let notes := multiLine.map fun p =>
      "on line " ++ toString p.start.line ++ " (column " ++ toString p.start.column ++
      ") through line " ++ toString p.stop.line ++ " (column " ++ toString (p.stop.column - 1) ++ ")"
    "regex parse error:\n" ++ rule ++ "\n" ++ body ++ rule ++ "\n" ++
      (if notes.isEmpty then "" else "\n".intercalate notes ++ "\n") ++ "error: " ++ kind.message
  else
    "regex parse error:\n" ++ body ++ "error: " ++ kind.message

/-- The text of a refusal. -/
def Error.message : Error → String
  | .malformed pattern kind span => renderMalformed pattern kind span
  | .tooLarge limit => "Compiled regex exceeds size limit of " ++ toString limit ++ " bytes."

end HttpTelemetry.Pattern
