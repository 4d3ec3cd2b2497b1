import HttpTelemetry.Pattern.Parse
import HttpTelemetry.Pattern.Translate
import HttpTelemetry.Pattern.Match
import HttpTelemetry.Pattern.Size
/-!
# Compiled patterns

A `Regex` is a pattern text that was read, resolved, and found small enough to compile. Its
`source` is kept for display. Errors come in reading order: a malformed text first, then an
unresolvable class, then the size limit.
-/

namespace HttpTelemetry.Pattern

/-- A compiled pattern. -/
structure Regex where
  /-- The text that was compiled. -/
  source : String
  hir : Hir

/-- Compiles a pattern text. -/
def Regex.compile (text : String) : Except Error Regex := do
  let ast ← parse text
  let hir ← translate text ast
  if hir.tooLarge then throw (.tooLarge sizeLimit)
  return ⟨text, hir⟩

/-- Whether the pattern matches somewhere in the text. -/
def Regex.isMatch (r : Regex) (s : String) : Bool := r.hir.matches s

end HttpTelemetry.Pattern
