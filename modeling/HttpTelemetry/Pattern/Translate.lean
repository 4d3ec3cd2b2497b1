import HttpTelemetry.Pattern.Syntax
import HttpTelemetry.Pattern.Hir
import HttpTelemetry.Pattern.Property
import HttpTelemetry.Unicode.CaseFold
import HttpTelemetry.Unicode.Word
/-!
# From syntax to meaning

`translate` resolves a syntax tree into an `Hir` under the flags in force. A flag setting holds
for the rest of its group, later alternatives included; a group restores the flags it found.

Without the `u` flag, classes are sets of bytes: they may hold only ASCII, since a pattern
must never match part of a character, so a class that reaches beyond ASCII, `.`, and a byte
escape above `\x7F` are refused as able to match invalid UTF-8, and a non-ASCII character in a
byte class or any Unicode class is refused outright. Case-blind matching adds, to a literal or
class, every character equal to one of its members up to simple case folding; a class is
folded before it is negated.
-/

namespace HttpTelemetry.Pattern

open HttpTelemetry.Unicode

/-- The flags in force while translating. -/
structure Flags where
  caseInsensitive : Bool := false
  multiLine : Bool := false
  dotMatchesNewLine : Bool := false
  swapGreed : Bool := false
  unicode : Bool := true
  crlf : Bool := false
  deriving Repr, DecidableEq

/-- The flags after a flag setting or a group's flags. -/
def Flags.apply (f : Flags) (items : List (Flag × Bool)) : Flags :=
  items.foldl (fun f (flag, on) =>
    match flag with
    | .caseInsensitive => { f with caseInsensitive := on }
    | .multiLine => { f with multiLine := on }
    | .dotMatchesNewLine => { f with dotMatchesNewLine := on }
    | .swapGreed => { f with swapGreed := on }
    | .unicode => { f with unicode := on }
    | .crlf => { f with crlf := on }
    | .ignoreWhitespace => f) f

/-- Translation can refuse a node, at its span. -/
abbrev TranslateM := Except (ErrorKind × Span)

/-- The bytes `0` to `255`. -/
def allBytes : RangeSet := ⟨[(0, 0xFF)]⟩

/-- The named ASCII classes. -/
def AsciiClass.set : AsciiClass → RangeSet
  | .alnum => ⟨[(0x30, 0x39), (0x41, 0x5A), (0x61, 0x7A)]⟩
  | .alpha => ⟨[(0x41, 0x5A), (0x61, 0x7A)]⟩
  | .ascii => ⟨[(0, 0x7F)]⟩
  | .blank => ⟨[(9, 9), (0x20, 0x20)]⟩
  | .cntrl => ⟨[(0, 0x1F), (0x7F, 0x7F)]⟩
  | .digit => ⟨[(0x30, 0x39)]⟩
  | .graph => ⟨[(0x21, 0x7E)]⟩
  | .lower => ⟨[(0x61, 0x7A)]⟩
  | .print => ⟨[(0x20, 0x7E)]⟩
  | .punct => ⟨[(0x21, 0x2F), (0x3A, 0x40), (0x5B, 0x60), (0x7B, 0x7E)]⟩
  | .space => ⟨[(9, 13), (0x20, 0x20)]⟩
  | .upper => ⟨[(0x41, 0x5A)]⟩
  | .word => ⟨[(0x30, 0x39), (0x41, 0x5A), (0x5F, 0x5F), (0x61, 0x7A)]⟩
  | .xdigit => ⟨[(0x30, 0x39), (0x41, 0x46), (0x61, 0x66)]⟩

/-- `\d`, `\s`, `\w` over all of Unicode. -/
def PerlClass.unicodeSet : PerlClass → RangeSet
  | .digit => categorySet (· == "Nd")
  | .space => Unicode.whiteSpace.set
  | .word => Unicode.word.set

/-- `\d`, `\s`, `\w` over ASCII. -/
def PerlClass.asciiSet : PerlClass → RangeSet
  | .digit => AsciiClass.set .digit
  | .space => AsciiClass.set .space
  | .word => AsciiClass.set .word

/-- Case folding then negation, within Unicode or within bytes; a byte set must stay ASCII. -/
def Flags.foldNegate (f : Flags) (negated : Bool) (span : Span) (s : RangeSet) :
    TranslateM RangeSet :=
  if f.unicode then
    let s := if f.caseInsensitive then s.caseFold else s
    pure (if negated then s.complement else s)
  else
    let s := if f.caseInsensitive then s.asciiCaseFold else s
    let s := if negated then allBytes.diff s else s
    if s.isAscii then pure s else throw (ErrorKind.invalidUtf8, span)

/-- The character a literal stands for; a byte escape above `\x7F` is refused without the
`u` flag. -/
def Flags.literalChar (f : Flags) (lit : Literal) : TranslateM Char :=
  if f.unicode then pure lit.c
  else match lit.byte with
    | some b => if b ≤ 0x7F then pure lit.c else throw (.invalidUtf8, lit.span)
    | none => pure lit.c

/-- A literal as an item of a byte class: it must be ASCII. -/
def Flags.classByte (f : Flags) (lit : Literal) : TranslateM Nat := do
  let c ← f.literalChar lit
  if c.toNat ≤ 0x7F then pure c.toNat else throw (.unicodeNotAllowed, lit.span)

/-- The set a Unicode class names, folded and negated. -/
def Flags.unicodeClass (f : Flags) (q : UnicodeQuery) (negated : Bool) (span : Span) :
    TranslateM RangeSet := do
  if !f.unicode then throw (.unicodeNotAllowed, span)
  match q.resolve with
  | .error kind => throw (kind, span)
  | .ok s => f.foldNegate (negated != q.negates) span s

/-- The set a Perl class names. -/
def Flags.perlClass (f : Flags) (kind : PerlClass) (negated : Bool) (span : Span) :
    TranslateM RangeSet :=
  if f.unicode then
    pure (if negated then kind.unicodeSet.complement else kind.unicodeSet)
  else
    let s := if negated then allBytes.diff kind.asciiSet else kind.asciiSet
    if s.isAscii then pure s else throw (ErrorKind.invalidUtf8, span)

mutual
/-- The set of the body of a bracketed class, before its own folding and negation. -/
def Flags.classTree (f : Flags) : ClassTree → TranslateM RangeSet
  | .empty _ => pure RangeSet.empty
  | .literal lit => do
    if f.unicode then pure (RangeSet.single lit.c.toNat)
    else pure (RangeSet.single (← f.classByte lit))
  | .range lo hi => do
    if f.unicode then pure ⟨[(lo.c.toNat, hi.c.toNat)]⟩
    else
      let a ← f.classByte lo
      let b ← f.classByte hi
      pure ⟨[(a, b)]⟩
  | .ascii kind negated span => f.foldNegate negated span kind.set
  | .unicode q negated span => f.unicodeClass q negated span
  | .perl kind negated span => f.perlClass kind negated span
  | .bracketed negated body span => do f.foldNegate negated span (← f.classTree body)
  | .union items _ => f.classTreeUnion items
  | .op kind lhs rhs _ => do
    let l ← f.classTree lhs
    let r ← f.classTree rhs
    let fold := fun (s : RangeSet) =>
      if !f.caseInsensitive then s else if f.unicode then s.caseFold else s.asciiCaseFold
    let (l, r) := (fold l, fold r)
    pure <| match kind with
      | .intersection => l.inter r
      | .difference => l.diff r
      | .symmetricDifference => l.symmDiff r

def Flags.classTreeUnion (f : Flags) : List ClassTree → TranslateM RangeSet
  | [] => pure RangeSet.empty
  | t :: rest => do return (← f.classTree t).union (← f.classTreeUnion rest)
end

/-- The look an assertion stands for under the flags. -/
def Flags.look (f : Flags) : AssertionKind → Look
  | .startLine => if f.multiLine then (if f.crlf then .startCRLF else .startLF) else .start
  | .endLine => if f.multiLine then (if f.crlf then .finishCRLF else .finishLF) else .finish
  | .startText => .start
  | .endText => .finish
  | .wordBoundary => if f.unicode then .wordUnicode else .wordAscii
  | .notWordBoundary => if f.unicode then .notWordUnicode else .notWordAscii
  | .wordStart | .wordStartAngle => if f.unicode then .wordStartUnicode else .wordStartAscii
  | .wordEnd | .wordEndAngle => if f.unicode then .wordEndUnicode else .wordEndAscii
  | .wordStartHalf => if f.unicode then .wordStartHalfUnicode else .wordStartHalfAscii
  | .wordEndHalf => if f.unicode then .wordEndHalfUnicode else .wordEndHalfAscii

/-- What `.` matches under the flags. -/
def Flags.dot (f : Flags) (span : Span) : TranslateM Hir :=
  if !f.unicode then throw (ErrorKind.invalidUtf8, span)
  else if f.dotMatchesNewLine then pure (.cls RangeSet.full)
  else if f.crlf then pure (.cls (RangeSet.full.diff ⟨[(0x0A, 0x0A), (0x0D, 0x0D)]⟩))
  else pure (.cls (RangeSet.full.diff ⟨[(0x0A, 0x0A)]⟩))

/-- A literal under the flags: case-blind, it becomes the class of its case variants. -/
def Flags.literal (f : Flags) (lit : Literal) : TranslateM Hir := do
  let c ← f.literalChar lit
  if !f.caseInsensitive then return .literal [c]
  if f.unicode then
    return Hir.mkClass (RangeSet.single c.toNat).caseFold
  if c.isAlpha then
    return Hir.mkClass (RangeSet.single c.toNat).asciiCaseFold
  return .literal [c]

mutual
/-- The meaning of a node and the flags in force after it. -/
def Flags.translate (f : Flags) : Ast → TranslateM (Hir × Flags)
  | .empty _ => pure (.empty, f)
  | .flags items _ => pure (.empty, f.apply items)
  | .literal lit => do return (← f.literal lit, f)
  | .dot span => do return (← f.dot span, f)
  | .assertion kind _ => pure (.look (f.look kind), f)
  | .unicodeClass q negated span => do return (Hir.mkClass (← f.unicodeClass q negated span), f)
  | .perlClass kind negated span => do return (Hir.mkClass (← f.perlClass kind negated span), f)
  | .bracketed negated body span => do
    let s ← f.foldNegate negated span (← f.classTree body)
    return (Hir.mkClass s, f)
  | .repetition min max greedy sub _ => do
    let (h, _) ← f.translate sub
    return (Hir.mkRepetition min max (greedy != f.swapGreed) h, f)
  | .group kind sub _ => do
    let inner := match kind with
      | .nonCapturing flags => f.apply flags
      | .capture .. => f
    let (h, _) ← inner.translate sub
    let h := match kind with
      | .capture index name => Hir.capture index name h
      | .nonCapturing _ => h
    return (h, f)
  | .concat items _ => do
    let (hs, f') ← f.translateAll items
    return (Hir.mkConcat hs, f')
  | .alternation items _ => do
    let (hs, f') ← f.translateAll items
    return (Hir.mkAlternation hs, f')

/-- Translates items in order, each under the flags the ones before it leave. -/
def Flags.translateAll (f : Flags) : List Ast → TranslateM (List Hir × Flags)
  | [] => pure ([], f)
  | a :: rest => do
    let (h, f') ← f.translate a
    let (hs, f'') ← f'.translateAll rest
    return (h :: hs, f'')
end

/-- The meaning of a whole pattern under the default flags. -/
def translate (pattern : String) (ast : Ast) : Except Error Hir :=
  match ({} : Flags).translate ast with
  | .ok (h, _) => .ok h
  | .error (kind, span) => .error (.malformed pattern kind span)

end HttpTelemetry.Pattern
