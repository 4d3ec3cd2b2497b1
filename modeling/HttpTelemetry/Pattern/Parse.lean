import HttpTelemetry.Pattern.Error
import HttpTelemetry.Unicode.WhiteSpace
import HttpTelemetry.Unicode.Character
/-!
# Reading a pattern

`parse` reads pattern text into its syntax tree, or says where and why the text is malformed.
The reader keeps an explicit stack of open groups and one of open bracketed classes, so each
loop reads at least one character per round and runs at most as many rounds as the pattern has
characters.

The rules that decide which error wins follow the order in which the text is read: an
unopened `)` is reported where it stands, a group still open at the end at its `(`, a class
still open at the innermost open `[`. A repetition operator needs something before it in the
same sequence, and a flag setting or an empty sequence does not count. A brace after an item
always starts a counted repetition, so `/{id}` is malformed where the decimal should be.
Finally the tree may nest at most 250 levels deep.
-/

namespace HttpTelemetry.Pattern

open HttpTelemetry.Unicode

/-- A sequence being read: its items so far and where it started. -/
structure Seq where
  items : Array Ast
  start : Nat
  deriving Inhabited

def Seq.push (s : Seq) (a : Ast) : Seq := { s with items := s.items.push a }

/-- The sequence as one node, ending at `stop`. -/
def Seq.toAst (s : Seq) (stop : Nat) : Ast := Ast.ofConcat s.items.toList ⟨s.start, stop⟩

/-- A union of class items being read. Its span runs from its first item to its last; with no
item yet it is the empty span where the union began. -/
structure UnionAcc where
  items : Array ClassTree
  span : Span
  deriving Inhabited

/-- An empty union at a position. -/
def UnionAcc.empty (pos : Nat) : UnionAcc := ⟨#[], Span.at pos⟩

def UnionAcc.push (u : UnionAcc) (t : ClassTree) : UnionAcc :=
  let start := if u.items.isEmpty then t.span.start else u.span.start
  { items := u.items.push t, span := ⟨start, t.span.stop⟩ }

def UnionAcc.toItem (u : UnionAcc) : ClassTree := ClassTree.ofUnion u.items.toList u.span

/-- A group whose `)` has not been read yet. -/
structure OpenGroup where
  /-- The sequence the group will be part of. -/
  outer : Seq
  kind : GroupKind
  openSpan : Span
  /-- Whether blanks were ignored outside the group. -/
  ignoreWhitespace : Bool

/-- The stack of open groups; an alternation collects the alternatives read so far. -/
inductive GroupFrame where
  | group (g : OpenGroup)
  | alternation (alts : List Ast) (start : Nat)

/-- A bracketed class whose `]` has not been read yet. -/
structure OpenClass where
  /-- The union the class will be an item of. -/
  outer : UnionAcc
  negated : Bool
  span : Span

/-- The stack of open classes and pending set operations. -/
inductive ClassFrame where
  | opened (c : OpenClass)
  | op (kind : ClassOp) (lhs : ClassTree)

/-- The reader's state. -/
structure Reader where
  chars : Array Char
  pos : Nat
  ignoreWhitespace : Bool
  captureIndex : Nat
  captureNames : List (String × Span)
  groups : List GroupFrame
  classes : List ClassFrame

/-- Reading that can stop at a malformed place. -/
abbrev ReadM := StateT Reader (Except (ErrorKind × Span))

def fail {α : Type} (kind : ErrorKind) (span : Span) : ReadM α := throw (kind, span)

def position : ReadM Nat := return (← get).pos

def atEnd : ReadM Bool := do
  let r ← get
  return r.pos ≥ r.chars.size

/-- The character at the reading position; the null character past the end. -/
def current : ReadM Char := do
  let r ← get
  return r.chars.getD r.pos '\x00'

def charAt (i : Nat) : ReadM (Option Char) := return (← get).chars[i]?

def inputSize : ReadM Nat := return (← get).chars.size

/-- Moves one character on; tells whether a character follows. -/
def advance : ReadM Bool := do
  let r ← get
  if r.pos ≥ r.chars.size then return false
  set { r with pos := r.pos + 1 }
  return r.pos + 1 < r.chars.size

/-- The span of the current character. -/
def charSpan : ReadM Span := do
  let p ← position
  return ⟨p, p + 1⟩

def hereSpan : ReadM Span := return Span.at (← position)

/-- Blanks as the pattern language sees them: the White_Space property. -/
def isBlank (c : Char) : Bool := whiteSpace.contains c.toNat

/-- In blank-ignoring mode, skips blanks and `#` comments up to the end of their line. -/
def skipBlanks : ReadM Unit := do
  if !(← get).ignoreWhitespace then return
  let n ← inputSize
  for _ in [0:n + 1] do
    if ← atEnd then break
    let c ← current
    if isBlank c then
      let _ ← advance
    else if c == '#' then
      let _ ← advance
      for _ in [0:n + 1] do
        if ← atEnd then break
        let d ← current
        let _ ← advance
        if d == '\n' then break
    else break

/-- Moves one character on and skips blanks; tells whether a character follows. -/
def advanceSkipping : ReadM Bool := do
  if !(← advance) then return false
  skipBlanks
  return !(← atEnd)

/-- Moves past `s` if the text at the reading position starts with it. -/
def advanceIf (s : String) : ReadM Bool := do
  let r ← get
  let want := s.toList
  let have_ := (r.chars.extract r.pos (r.pos + want.length)).toList
  if have_ == want then
    set { r with pos := r.pos + want.length }
    return true
  return false

/-- The character after the current one. -/
def peek : ReadM (Option Char) := do charAt ((← position) + 1)

/-- The next character after the current one, blanks and comments skipped in blank-ignoring
mode (a comment ends at the first character that is not blank). -/
def peekSkipping : ReadM (Option Char) := do
  let r ← get
  if !r.ignoreWhitespace then return r.chars[r.pos + 1]?
  if r.pos ≥ r.chars.size then return none
  let rest := (r.chars.extract (r.pos + 1) r.chars.size).toList
  let rec go (inComment : Bool) : List Char → Option Char
    | [] => r.chars[r.pos + 1]?
    | c :: more =>
      if isBlank c then go inComment more
      else if !inComment && c == '#' then go true more
      else some c
  return go false rest

/-! ## Primitives -/

/-- A single item read outside or inside brackets. -/
inductive Primitive where
  | literal (lit : Literal)
  | assertion (kind : AssertionKind) (span : Span)
  | dot (span : Span)
  | perl (kind : PerlClass) (negated : Bool) (span : Span)
  | unicode (query : UnicodeQuery) (negated : Bool) (span : Span)

def Primitive.span : Primitive → Span
  | .literal lit => lit.span
  | .assertion _ s | .dot s | .perl _ _ s | .unicode _ _ s => s

def Primitive.toAst : Primitive → Ast
  | .literal lit => .literal lit
  | .assertion k s => .assertion k s
  | .dot s => .dot s
  | .perl k n s => .perlClass k n s
  | .unicode q n s => .unicodeClass q n s

/-- A primitive as an item of a bracketed class: assertions and `.` are no class items. -/
def Primitive.toClassItem : Primitive → ReadM ClassTree
  | .literal lit => pure (.literal lit)
  | .perl k n s => pure (.perl k n s)
  | .unicode q n s => pure (.unicode q n s)
  | p => fail .classEscapeInvalid p.span

/-- A primitive as the end of a class range: only literals are. -/
def Primitive.toClassLiteral : Primitive → ReadM Literal
  | .literal lit => pure lit
  | p => fail .classRangeLiteral p.span

/-- Characters that a backslash makes literal. -/
def isMetaCharacter (c : Char) : Bool :=
  "\\.+*?()|[]{}^$#&-~".contains c

/-- Characters that a backslash may precede without changing them: the meta characters and
every other ASCII character that is neither a letter, a digit, `<` nor `>`. -/
def isEscapable (c : Char) : Bool :=
  isMetaCharacter c ||
    (c.toNat < 128 && !c.isAlphanum && c != '<' && c != '>')

def isHexDigit (c : Char) : Bool :=
  c.isDigit || ('a' ≤ c && c ≤ 'f') || ('A' ≤ c && c ≤ 'F')

/-- The value of hexadecimal digits, if it fits in 32 bits and is a character. -/
def hexScalar (digits : List Char) : Option Char :=
  let value := digits.foldl (fun acc c =>
    acc * 16 + (if c.isDigit then c.toNat - '0'.toNat
      else if 'a' ≤ c && c ≤ 'f' then c.toNat - 'a'.toNat + 10
      else c.toNat - 'A'.toNat + 10)) 0
  if value < Nat.pow 2 32 && value.isValidChar then some (Char.ofNat value) else none

/-- `\xNN`, `\uNNNN`, `\UNNNNNNNN`: a fixed number of hexadecimal digits. -/
def readHexDigits (count : Nat) (start : Nat) : ReadM Literal := do
  let digitsStart ← position
  let mut digits : Array Char := #[]
  for i in [0:count] do
    if i > 0 then
      if !(← advanceSkipping) then fail .escapeUnexpectedEof (← hereSpan)
    let c ← current
    if !isHexDigit c then fail .escapeHexInvalidDigit (← charSpan)
    digits := digits.push c
  let _ ← advanceSkipping
  let stop ← position
  match hexScalar digits.toList with
  | none => fail .escapeHexInvalid ⟨digitsStart, stop⟩
  | some c =>
    let byte := if count == 2 then some c.toNat else none
    return ⟨c, byte, ⟨start, stop⟩⟩

/-- `\x{…}` and the like: hexadecimal digits between braces. -/
def readHexBrace (start : Nat) : ReadM Literal := do
  let bracePos ← position
  let digitsStart := bracePos + 1
  let n ← inputSize
  let mut digits : Array Char := #[]
  for _ in [0:n + 1] do
    if !(← advanceSkipping) then break
    let c ← current
    if c == '}' then break
    if !isHexDigit c then fail .escapeHexInvalidDigit (← charSpan)
    digits := digits.push c
  if ← atEnd then fail .escapeUnexpectedEof ⟨bracePos, ← position⟩
  let stop ← position
  let _ ← advanceSkipping
  if digits.isEmpty then fail .escapeHexEmpty ⟨bracePos, ← position⟩
  match hexScalar digits.toList with
  | none => fail .escapeHexInvalid ⟨digitsStart, stop⟩
  | some c => return ⟨c, none, ⟨start, ← position⟩⟩

/-- A hexadecimal escape after `\x`, `\u` or `\U`. -/
def readHex (start : Nat) : ReadM Literal := do
  let count := match ← current with
    | 'x' => 2
    | 'u' => 4
    | _ => 8
  if !(← advanceSkipping) then fail .escapeUnexpectedEof (← hereSpan)
  if (← current) == '{' then readHexBrace start else readHexDigits count start

/-- `\pN`, `\p{…}`, `\PN`, `\P{…}`. -/
def readUnicodeClass (start : Nat) : ReadM Primitive := do
  let negated := (← current) == 'P'
  if !(← advanceSkipping) then fail .escapeUnexpectedEof (← hereSpan)
  if (← current) == '{' then
    let n ← inputSize
    let mut name : Array Char := #[]
    for _ in [0:n + 1] do
      if !(← advanceSkipping) then break
      let c ← current
      if c == '}' then break
      name := name.push c
    if ← atEnd then fail .escapeUnexpectedEof (← hereSpan)
    let _ ← advance
    let text := String.ofList name.toList
    let query :=
      match text.splitOn "!=" with
      | first :: second :: rest => UnicodeQuery.namedValue true first ("!=".intercalate (second :: rest))
      | _ =>
        match text.splitOn ":" with
        | first :: second :: rest => .namedValue false first (":".intercalate (second :: rest))
        | _ =>
          match text.splitOn "=" with
          | first :: second :: rest => .namedValue false first ("=".intercalate (second :: rest))
          | _ => .named text
    return .unicode query negated ⟨start, ← position⟩
  else
    let c ← current
    if c == '\\' then fail .unicodeClassInvalid (← charSpan)
    let _ ← advanceSkipping
    return .unicode (.oneLetter c) negated ⟨start, ← position⟩

/-- After `\b`, an opening brace may start `\b{start}`, `\b{end}`, `\b{start-half}` or
`\b{end-half}`; anything else after the brace is left for a counted repetition. -/
def readSpecialWordBoundary (wbStart : Nat) : ReadM (Option AssertionKind) := do
  let isValid := fun (c : Char) => ('A' ≤ c && c ≤ 'Z') || ('a' ≤ c && c ≤ 'z') || c == '-'
  let start ← position
  if !(← advanceSkipping) then fail .specialWordOrRepetitionUnexpectedEof ⟨wbStart, ← position⟩
  let contentStart ← position
  if !isValid (← current) then
    modify fun r => { r with pos := start }
    return none
  let n ← inputSize
  let mut name : Array Char := #[]
  for _ in [0:n + 1] do
    if ← atEnd then break
    let c ← current
    if !isValid c then break
    name := name.push c
    let _ ← advanceSkipping
  if (← atEnd) || (← current) != '}' then
    fail .specialWordBoundaryUnclosed ⟨start, ← position⟩
  let stop ← position
  let _ ← advance
  match String.ofList name.toList with
  | "start" => return some .wordStart
  | "end" => return some .wordEnd
  | "start-half" => return some .wordStartHalf
  | "end-half" => return some .wordEndHalf
  | _ => fail .specialWordBoundaryUnrecognized ⟨contentStart, stop⟩

/-- An escape after a backslash. -/
def readEscape : ReadM Primitive := do
  let start ← position
  if !(← advance) then fail .escapeUnexpectedEof ⟨start, ← position⟩
  let c ← current
  if '0' ≤ c && c ≤ '9' then
    fail .unsupportedBackreference ⟨start, (← position) + 1⟩
  if c == 'x' || c == 'u' || c == 'U' then
    return .literal (← readHex start)
  if c == 'p' || c == 'P' then
    return ← readUnicodeClass start
  if "dswDSW".contains c then
    let _ ← advance
    let kind := if c == 'd' || c == 'D' then PerlClass.digit
      else if c == 's' || c == 'S' then .space else .word
    return .perl kind c.isUpper ⟨start, ← position⟩
  let _ ← advance
  let span : Span := ⟨start, ← position⟩
  if isMetaCharacter c || isEscapable c then
    return .literal ⟨c, none, span⟩
  match c with
  | 'a' => return .literal ⟨'\x07', none, span⟩
  | 'f' => return .literal ⟨'\x0C', none, span⟩
  | 't' => return .literal ⟨'\t', none, span⟩
  | 'n' => return .literal ⟨'\n', none, span⟩
  | 'r' => return .literal ⟨'\r', none, span⟩
  | 'v' => return .literal ⟨'\x0B', none, span⟩
  | 'A' => return .assertion .startText span
  | 'z' => return .assertion .endText span
  | 'b' =>
    if !(← atEnd) && (← current) == '{' then
      match ← readSpecialWordBoundary start with
      | some kind => return .assertion kind ⟨start, ← position⟩
      | none => return .assertion .wordBoundary span
    return .assertion .wordBoundary span
  | 'B' => return .assertion .notWordBoundary span
  | '<' => return .assertion .wordStartAngle span
  | '>' => return .assertion .wordEndAngle span
  | _ => fail .escapeUnrecognized span

/-- A primitive outside brackets. -/
def readPrimitive : ReadM Primitive := do
  let c ← current
  if c == '\\' then return ← readEscape
  let span ← charSpan
  let _ ← advance
  match c with
  | '.' => return .dot span
  | '^' => return .assertion .startLine span
  | '$' => return .assertion .endLine span
  | _ => return .literal ⟨c, none, span⟩

/-! ## Repetitions -/

/-- A decimal number, blanks around it skipped. A missing or oversized number is returned as
a refusal rather than raised, since a counted repetition reports it only once it knows the
count is closed. -/
def readDecimal : ReadM (Except (ErrorKind × Span) Nat) := do
  let n ← inputSize
  for _ in [0:n + 1] do
    if (← atEnd) || !isBlank (← current) then break
    let _ ← advance
  let start ← position
  let mut digits : Array Char := #[]
  for _ in [0:n + 1] do
    if ← atEnd then break
    let c ← current
    if !c.isDigit then break
    digits := digits.push c
    let _ ← advanceSkipping
  let span : Span := ⟨start, ← position⟩
  for _ in [0:n + 1] do
    if (← atEnd) || !isBlank (← current) then break
    let _ ← advanceSkipping
  if digits.isEmpty then return .error (.decimalEmpty, span)
  let value := digits.foldl (fun acc c => acc * 10 + (c.toNat - '0'.toNat)) 0
  if value ≥ Nat.pow 2 32 then return .error (.decimalInvalid, span)
  return .ok value

/-- A repetition count, with an empty count reported as a repetition error. -/
def readCount : ReadM (Except (ErrorKind × Span) Nat) := do
  return (← readDecimal).mapError fun (kind, span) =>
    match kind with
    | .decimalEmpty => (.repetitionCountDecimalEmpty, span)
    | other => (other, span)

/-- Raises a refusal kept for later. -/
def raise {α : Type} : Except (ErrorKind × Span) α → ReadM α
  | .ok a => pure a
  | .error (kind, span) => fail kind span

/-- The item a repetition operator applies to: the last of the sequence, which must not be
empty or a flag setting. -/
def repeatedItem (seq : Seq) : ReadM Ast := do
  match seq.items.back? with
  | none => fail .repetitionMissing (← hereSpan)
  | some (.empty _) | some (.flags _ _) => fail .repetitionMissing (← hereSpan)
  | some a => return a

/-- `?`, `*` or `+`, with an optional `?` for the lazy form. -/
def readUncountedRepetition (seq : Seq) (min : Nat) (max : Option Nat) : ReadM Seq := do
  let item ← repeatedItem seq
  let mut greedy := true
  if ← advance then
    if (← current) == '?' then
      greedy := false
      let _ ← advance
  let stop ← position
  let node := Ast.repetition min max greedy item ⟨item.span.start, stop⟩
  return { seq with items := seq.items.pop.push node }

/-- `{n}`, `{n,}` or `{n,m}`, with an optional `?` for the lazy form. An unclosed count is
reported before a missing or oversized lower bound. -/
def readCountedRepetition (seq : Seq) : ReadM Seq := do
  let start ← position
  let item ← repeatedItem seq
  if !(← advanceSkipping) then fail .repetitionCountUnclosed ⟨start, ← position⟩
  let low ← readCount
  if ← atEnd then fail .repetitionCountUnclosed ⟨start, ← position⟩
  let mut bounds : Nat × Option Nat := (0, none)
  if (← current) == ',' then
    if !(← advanceSkipping) then fail .repetitionCountUnclosed ⟨start, ← position⟩
    if (← current) != '}' then
      let lo ← raise low
      bounds := (lo, some (← raise (← readCount)))
    else
      bounds := (← raise low, none)
  else
    let lo ← raise low
    bounds := (lo, some lo)
  if (← atEnd) || (← current) != '}' then
    fail .repetitionCountUnclosed ⟨start, ← position⟩
  let mut greedy := true
  if ← advanceSkipping then
    if (← current) == '?' then
      greedy := false
      let _ ← advance
  let stop ← position
  let (low, high) := bounds
  match high with
  | some h =>
    if low > h then fail .repetitionCountInvalid ⟨start, stop⟩
  | none => pure ()
  let node := Ast.repetition low high greedy item ⟨item.span.start, stop⟩
  return { seq with items := seq.items.pop.push node }

/-! ## Groups and flags -/

/-- The flag a letter names. -/
def flagOf (c : Char) : Option Flag :=
  match c with
  | 'i' => some .caseInsensitive
  | 'm' => some .multiLine
  | 's' => some .dotMatchesNewLine
  | 'U' => some .swapGreed
  | 'u' => some .unicode
  | 'R' => some .crlf
  | 'x' => some .ignoreWhitespace
  | _ => none

/-- Reads flag letters up to `:` or `)`: each flag at most once, one `-` at most, and the `-`
not last. The result tells for each flag named whether it is switched on. -/
def readFlags : ReadM (List (Flag × Bool)) := do
  let n ← inputSize
  let mut items : Array (Flag × Bool × Span) := #[]
  let mut negation : Option Span := none
  let mut lastWasNegation : Option Span := none
  for _ in [0:n + 1] do
    let c ← current
    if c == ':' || c == ')' then break
    let sp ← charSpan
    if c == '-' then
      lastWasNegation := some sp
      match negation with
      | some original => fail (.flagRepeatedNegation original) sp
      | none => negation := some sp
    else
      lastWasNegation := none
      match flagOf c with
      | none => fail .flagUnrecognized sp
      | some f =>
        match items.find? (fun it => it.1 == f) with
        | some (_, _, original) => fail (.flagDuplicate original) sp
        | none => items := items.push (f, negation.isNone, sp)
    if !(← advance) then fail .flagUnexpectedEof (← hereSpan)
  match lastWasNegation with
  | some sp => fail .flagDanglingNegation sp
  | none => return items.toList.map (fun it => (it.1, it.2.1))

/-- Whether a list of flag switches mentions a flag, and how. -/
def flagState (flags : List (Flag × Bool)) (f : Flag) : Option Bool :=
  (flags.find? (·.1 == f)).map (·.2)

/-- A capture group name: an alphabetic character or `_`, then alphabetic characters,
numbers, `_`, `.`, `[` or `]`. -/
def isCaptureChar (c : Char) (first : Bool) : Bool :=
  let alphabetic := isAlphabeticChar c
  let numeric := isNumericChar c
  c == '_' || (if first then alphabetic else
    c == '.' || c == '[' || c == ']' || alphabetic || numeric)

/-- The name of a named group, up to `>`. -/
def readCaptureName : ReadM String := do
  if ← atEnd then fail .groupNameUnexpectedEof (← hereSpan)
  let start ← position
  let n ← inputSize
  for _ in [0:n + 1] do
    let c ← current
    if c == '>' then break
    if !isCaptureChar c ((← position) == start) then fail .groupNameInvalid (← charSpan)
    if !(← advance) then break
  let stop ← position
  if ← atEnd then fail .groupNameUnexpectedEof (← hereSpan)
  let _ ← advance
  let r ← get
  let name := String.ofList (r.chars.extract start stop).toList
  if name.isEmpty then fail .groupNameEmpty (Span.at start)
  match r.captureNames.find? (·.1 == name) with
  | some (_, original) => fail (.groupNameDuplicate original) ⟨start, stop⟩
  | none => set { r with captureNames := (name, ⟨start, stop⟩) :: r.captureNames }
  return name

/-- The next capture group number. -/
def nextCaptureIndex : ReadM Nat := do
  let r ← get
  set { r with captureIndex := r.captureIndex + 1 }
  return r.captureIndex + 1

/-- What an opening parenthesis starts: a flag setting, or a group. -/
inductive Opening where
  | setFlags (flags : List (Flag × Bool)) (span : Span)
  | group (kind : GroupKind) (openSpan : Span)

/-- Reads `(`, `(?:`, `(?flags:`, `(?flags)`, `(?P<name>` or `(?<name>`. -/
def readGroupOpening : ReadM Opening := do
  let openSpan ← charSpan
  let _ ← advance
  skipBlanks
  if (← advanceIf "?=") || (← advanceIf "?!") || (← advanceIf "?<=") || (← advanceIf "?<!") then
    fail .unsupportedLookAround ⟨openSpan.start, ← position⟩
  let innerSpan ← hereSpan
  if (← advanceIf "?P<") || (← advanceIf "?<") then
    let index ← nextCaptureIndex
    let name ← readCaptureName
    return .group (.capture index (some name)) openSpan
  if ← advanceIf "?" then
    if ← atEnd then fail .groupUnclosed openSpan
    let flags ← readFlags
    let closing ← current
    let _ ← advance
    if closing == ')' then
      if flags.isEmpty then fail .repetitionMissing innerSpan
      return .setFlags flags ⟨openSpan.start, ← position⟩
    return .group (.nonCapturing flags) openSpan
  let index ← nextCaptureIndex
  return .group (.capture index none) openSpan

/-- Opens a group, or applies a flag setting to the rest of the current group. -/
def openGroup (seq : Seq) : ReadM Seq := do
  match ← readGroupOpening with
  | .setFlags flags span =>
    match flagState flags .ignoreWhitespace with
    | some v => modify fun r => { r with ignoreWhitespace := v }
    | none => pure ()
    return seq.push (.flags flags span)
  | .group kind openSpan =>
    let old := (← get).ignoreWhitespace
    let new := match kind with
      | .nonCapturing flags => (flagState flags .ignoreWhitespace).getD old
      | _ => old
    modify fun r => { r with
      groups := .group ⟨seq, kind, openSpan, old⟩ :: r.groups
      ignoreWhitespace := new }
    return ⟨#[], ← position⟩

/-- Closes the innermost group at `)`. -/
def closeGroup (inner : Seq) : ReadM Seq := do
  let r ← get
  let here ← charSpan
  let (open_, alts, rest) ← match r.groups with
    | .group g :: rest => pure (g, none, rest)
    | .alternation alts start :: .group g :: rest => pure (g, some (alts, start), rest)
    | _ => fail .groupUnopened here
  let stop := r.pos
  set { r with groups := rest, ignoreWhitespace := open_.ignoreWhitespace }
  let _ ← advance
  let groupEnd ← position
  let last := inner.toAst stop
  let body := match alts with
    | some (alts, start) => Ast.alternation (alts ++ [last]) ⟨start, stop⟩
    | none => last
  return open_.outer.push (.group open_.kind body ⟨open_.openSpan.start, groupEnd⟩)

/-- Ends an alternative at `|`. -/
def pushAlternative (seq : Seq) : ReadM Seq := do
  let here ← position
  let item := seq.toAst here
  modify fun r => match r.groups with
    | .alternation alts start :: rest => { r with groups := .alternation (alts ++ [item]) start :: rest }
    | gs => { r with groups := .alternation [item] seq.start :: gs }
  let _ ← advance
  return ⟨#[], ← position⟩

/-- The whole pattern at its end: every group must be closed. -/
def finishGroups (seq : Seq) : ReadM Ast := do
  let here ← position
  let item := seq.toAst here
  match (← get).groups with
  | [] => return item
  | [.alternation alts start] => return .alternation (alts ++ [item]) ⟨start, here⟩
  | .alternation _ _ :: .group g :: _ => fail .groupUnclosed g.openSpan
  | .group g :: _ => fail .groupUnclosed g.openSpan
  | _ => return item

/-! ## Bracketed classes -/

/-- The error for a class left open: it points at the innermost open `[`. -/
def unclosedClass {α : Type} : ReadM α := do
  let open_ := (← get).classes.findSome? fun
    | .opened c => some c.span
    | .op .. => none
  fail .classUnclosed (open_.getD (← hereSpan))

/-- The named classes `[:name:]`. -/
def asciiClassOf (name : String) : Option AsciiClass :=
  match name with
  | "alnum" => some .alnum | "alpha" => some .alpha | "ascii" => some .ascii
  | "blank" => some .blank | "cntrl" => some .cntrl | "digit" => some .digit
  | "graph" => some .graph | "lower" => some .lower | "print" => some .print
  | "punct" => some .punct | "space" => some .space | "upper" => some .upper
  | "word" => some .word | "xdigit" => some .xdigit
  | _ => none

/-- Tries `[:name:]` or `[:^name:]` at a `[` inside brackets; on failure the position is
left where it was. -/
def readAsciiClass : ReadM (Option ClassTree) := do
  let start ← position
  let restore : ReadM (Option ClassTree) := do
    modify fun r => { r with pos := start }
    return none
  if !(← advance) || (← current) != ':' then return ← restore
  if !(← advance) then return ← restore
  let mut negated := false
  if (← current) == '^' then
    negated := true
    if !(← advance) then return ← restore
  let nameStart ← position
  let n ← inputSize
  for _ in [0:n + 1] do
    if (← current) == ':' then break
    if !(← advance) then break
  if ← atEnd then return ← restore
  let nameStop ← position
  if !(← advanceIf ":]") then return ← restore
  let r ← get
  match asciiClassOf (String.ofList (r.chars.extract nameStart nameStop).toList) with
  | some kind => return some (.ascii kind negated ⟨start, ← position⟩)
  | none => restore

/-- Reads the opening of a bracketed class: `[`, an optional `^`, and leading `-` or a
first `]`, which are literal there. -/
def readClassOpening : ReadM (Bool × Span × UnionAcc) := do
  let start ← position
  if !(← advanceSkipping) then fail .classUnclosed ⟨start, ← position⟩
  let mut negated := false
  if (← current) == '^' then
    negated := true
    if !(← advanceSkipping) then fail .classUnclosed ⟨start, ← position⟩
  let mut union := UnionAcc.empty (← position)
  let n ← inputSize
  for _ in [0:n + 1] do
    if (← current) != '-' then break
    union := union.push (.literal ⟨'-', none, ← charSpan⟩)
    if !(← advanceSkipping) then fail .classUnclosed ⟨start, start⟩
  if union.items.isEmpty && (← current) == ']' then
    union := union.push (.literal ⟨']', none, ← charSpan⟩)
    if !(← advanceSkipping) then fail .classUnclosed ⟨start, ← position⟩
  return (negated, ⟨start, ← position⟩, union)

/-- Opens a nested class inside `outer`. -/
def openClass (outer : UnionAcc) : ReadM UnionAcc := do
  let (negated, span, nested) ← readClassOpening
  modify fun r => { r with classes := .opened ⟨outer, negated, span⟩ :: r.classes }
  return nested

/-- Applies a pending set operation to its right operand; the operation spans both. -/
def closeClassOp (rhs : ClassTree) : ReadM ClassTree := do
  match (← get).classes with
  | .op kind lhs :: rest =>
    modify fun r => { r with classes := rest }
    return .op kind lhs rhs ⟨lhs.span.start, rhs.span.stop⟩
  | _ => return rhs

/-- Starts a set operation whose left operand is what was read since the last one. -/
def pushClassOp (kind : ClassOp) (lhs : UnionAcc) : ReadM UnionAcc := do
  let lhsTree ← closeClassOp lhs.toItem
  modify fun r => { r with classes := .op kind lhsTree :: r.classes }
  return UnionAcc.empty (← position)

/-- Closes the innermost class at `]`: the class itself when it is the outermost one, else
the union it belongs to. -/
def closeClass (nested : UnionAcc) : ReadM (Sum UnionAcc Ast) := do
  let body ← closeClassOp nested.toItem
  match (← get).classes with
  | .opened c :: rest =>
    modify fun r => { r with classes := rest }
    let _ ← advance
    let span : Span := ⟨c.span.start, ← position⟩
    if rest.isEmpty then return .inr (.bracketed c.negated body span)
    return .inl (c.outer.push (.bracketed c.negated body span))
  | _ => unclosedClass

/-- One item inside brackets. -/
def readClassPrimitive : ReadM Primitive := do
  let c ← current
  if c == '\\' then return ← readEscape
  let span ← charSpan
  let _ ← advance
  return .literal ⟨c, none, span⟩

/-- An item inside brackets, or a range of two literals. A `-` before `]` or another `-` is
no range. -/
def readClassRange : ReadM ClassTree := do
  let first ← readClassPrimitive
  skipBlanks
  if ← atEnd then return ← unclosedClass
  let next ← peekSkipping
  if (← current) != '-' || next == some ']' || next == some '-' then
    return ← first.toClassItem
  if !(← advanceSkipping) then return ← unclosedClass
  let second ← readClassPrimitive
  let lo ← first.toClassLiteral
  let hi ← second.toClassLiteral
  if lo.c > hi.c then fail .classRangeInvalid ⟨first.span.start, second.span.stop⟩
  return .range lo hi

/-- A bracketed class, from its `[` to its `]`. -/
def readBracketed : ReadM Ast := do
  let n ← inputSize
  let mut union := UnionAcc.empty (← position)
  for _ in [0:n + 1] do
    skipBlanks
    if ← atEnd then return ← unclosedClass
    let c ← current
    if c == '[' then
      if !(← get).classes.isEmpty then
        match ← readAsciiClass with
        | some cls =>
          union := union.push cls
          continue
        | none => pure ()
      union ← openClass union
    else if c == ']' then
      match ← closeClass union with
      | .inl nested => union := nested
      | .inr cls => return cls
    else if c == '&' && (← peek) == some '&' then
      let _ ← advanceIf "&&"
      union ← pushClassOp .intersection union
    else if c == '-' && (← peek) == some '-' then
      let _ ← advanceIf "--"
      union ← pushClassOp .difference union
    else if c == '~' && (← peek) == some '~' then
      let _ ← advanceIf "~~"
      union ← pushClassOp .symmetricDifference union
    else
      union := union.push (← readClassRange)
  unclosedClass

/-! ## Nesting -/

/-- The most levels a pattern may nest. -/
def nestLimit : Nat := 250

mutual
/-- The span of the first node, in reading order, that lies deeper than the limit. -/
def Ast.tooDeep (depth : Nat) : Ast → Option Span
  | .bracketed _ body span =>
    if depth + 1 > nestLimit then some span else body.tooDeep (depth + 1)
  | .repetition _ _ _ sub span =>
    if depth + 1 > nestLimit then some span else sub.tooDeep (depth + 1)
  | .group _ sub span =>
    if depth + 1 > nestLimit then some span else sub.tooDeep (depth + 1)
  | .concat items span =>
    if depth + 1 > nestLimit then some span else Ast.tooDeepAll (depth + 1) items
  | .alternation items span =>
    if depth + 1 > nestLimit then some span else Ast.tooDeepAll (depth + 1) items
  | _ => none

def Ast.tooDeepAll (depth : Nat) : List Ast → Option Span
  | [] => none
  | a :: rest => (a.tooDeep depth).orElse fun _ => Ast.tooDeepAll depth rest

def ClassTree.tooDeep (depth : Nat) : ClassTree → Option Span
  | .bracketed _ body span =>
    if depth + 1 > nestLimit then some span else body.tooDeep (depth + 1)
  | .union items span =>
    if depth + 1 > nestLimit then some span else ClassTree.tooDeepAll (depth + 1) items
  | .op _ lhs rhs span =>
    if depth + 1 > nestLimit then some span
    else (lhs.tooDeep (depth + 1)).orElse fun _ => rhs.tooDeep (depth + 1)
  | _ => none

def ClassTree.tooDeepAll (depth : Nat) : List ClassTree → Option Span
  | [] => none
  | a :: rest => (a.tooDeep depth).orElse fun _ => ClassTree.tooDeepAll depth rest
end

/-! ## The whole pattern -/

/-- One round of reading the whole pattern: the next item goes into the sequence being read,
or the reading stops at the end of the text. -/
def readItem (seq : Seq) : ReadM (ForInStep Seq) := do
  skipBlanks
  if ← atEnd then return .done seq
  match ← current with
  | '(' => return .yield (← openGroup seq)
  | ')' => return .yield (← closeGroup seq)
  | '|' => return .yield (← pushAlternative seq)
  | '[' => return .yield (seq.push (← readBracketed))
  | '?' => return .yield (← readUncountedRepetition seq 0 (some 1))
  | '*' => return .yield (← readUncountedRepetition seq 0 none)
  | '+' => return .yield (← readUncountedRepetition seq 1 none)
  | '{' => return .yield (← readCountedRepetition seq)
  | _ => return .yield (seq.push (← readPrimitive).toAst)

/-- Reads the whole pattern, one item a round. -/
def readPattern : ReadM Ast := do
  let n ← inputSize
  let seq ← forIn [0:n + 1] (⟨#[], 0⟩ : Seq) fun _ seq => readItem seq
  let ast ← finishGroups seq
  match ast.tooDeep 0 with
  | some span => fail (.nestLimitExceeded nestLimit) span
  | none => return ast

/-- The syntax tree of a pattern, or the reason it is malformed. -/
def parse (pattern : String) : Except Error Ast :=
  let start : Reader :=
    { chars := pattern.toList.toArray, pos := 0, ignoreWhitespace := false, captureIndex := 0
      captureNames := [], groups := [], classes := [] }
  match readPattern.run start with
  | .ok (ast, _) => .ok ast
  | .error (kind, span) => .error (.malformed pattern kind span)

end HttpTelemetry.Pattern
