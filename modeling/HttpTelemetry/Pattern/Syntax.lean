/-!
# Pattern syntax

The abstract syntax of the pattern language used for endpoint routes: literals, `.`, anchors
and word boundaries, Perl classes (`\d`, `\s`, `\w`), Unicode classes (`\pL`, `\p{Greek}`),
bracketed classes with ranges, nesting and set operations (`&&`, `--`, `~~`), repetitions
(`*`, `+`, `?`, `{n}`, `{n,}`, `{n,m}`, each with a lazy form), groups (capturing, named,
non-capturing with flags), flag settings, concatenation and alternation.

Positions are indices into the characters of the pattern; a `Span` is a half-open range of
them. Syntax nodes keep the spans that error messages point at.
-/

namespace HttpTelemetry.Pattern

/-- A half-open range of character positions in the pattern. -/
structure Span where
  start : Nat
  stop : Nat
  deriving Repr, DecidableEq, Inhabited

/-- The empty span at one position. -/
def Span.at (pos : Nat) : Span := ⟨pos, pos⟩

/-- Zero-width assertions. -/
inductive AssertionKind where
  | startLine | endLine | startText | endText
  | wordBoundary | notWordBoundary
  | wordStart | wordEnd | wordStartAngle | wordEndAngle | wordStartHalf | wordEndHalf
  deriving Repr, DecidableEq

/-- The classes `\d`, `\s` and `\w`. -/
inductive PerlClass where
  | digit | space | word
  deriving Repr, DecidableEq

/-- The named classes `[:alpha:]` and the like, inside brackets. -/
inductive AsciiClass where
  | alnum | alpha | ascii | blank | cntrl | digit | graph | lower | print | punct | space
  | upper | word | xdigit
  deriving Repr, DecidableEq

/-- How a Unicode class names its property: one letter (`\pL`), a name (`\p{Greek}`), or a
property and a value (`\p{sc=Greek}`, `\p{sc:Greek}`, `\p{sc!=Greek}`). -/
inductive UnicodeQuery where
  | oneLetter (c : Char)
  | named (name : String)
  | namedValue (notEqual : Bool) (name value : String)
  deriving Repr, DecidableEq

/-- The flags a group or a flag setting can switch. -/
inductive Flag where
  | caseInsensitive | multiLine | dotMatchesNewLine | swapGreed | unicode | crlf
  | ignoreWhitespace
  deriving Repr, DecidableEq

/-- The set operations inside brackets. -/
inductive ClassOp where
  | intersection | difference | symmetricDifference
  deriving Repr, DecidableEq

/-- A literal character where it was written; `byte` is its value when it was written as
`\xNN`. -/
structure Literal where
  c : Char
  byte : Option Nat
  span : Span
  deriving Repr, Inhabited

/-- The body of a bracketed class. -/
inductive ClassTree where
  | empty (span : Span)
  | literal (lit : Literal)
  | range (lo hi : Literal)
  | ascii (kind : AsciiClass) (negated : Bool) (span : Span)
  | unicode (query : UnicodeQuery) (negated : Bool) (span : Span)
  | perl (kind : PerlClass) (negated : Bool) (span : Span)
  | bracketed (negated : Bool) (body : ClassTree) (span : Span)
  /-- Two or more items side by side. -/
  | union (items : List ClassTree) (span : Span)
  | op (kind : ClassOp) (lhs rhs : ClassTree) (span : Span)
  deriving Repr, Inhabited

/-- What a group does with its match. -/
inductive GroupKind where
  | capture (index : Nat) (name : Option String)
  /-- A non-capturing group, with the flags it switches: `true` turns a flag on. -/
  | nonCapturing (flags : List (Flag × Bool))
  deriving Repr

/-- A parsed pattern. -/
inductive Ast where
  | empty (span : Span)
  /-- A flag setting such as `(?i)`: it holds for the rest of the enclosing group. -/
  | flags (items : List (Flag × Bool)) (span : Span)
  | literal (lit : Literal)
  | dot (span : Span)
  | assertion (kind : AssertionKind) (span : Span)
  | unicodeClass (query : UnicodeQuery) (negated : Bool) (span : Span)
  | perlClass (kind : PerlClass) (negated : Bool) (span : Span)
  | bracketed (negated : Bool) (body : ClassTree) (span : Span)
  | repetition (min : Nat) (max : Option Nat) (greedy : Bool) (sub : Ast) (span : Span)
  | group (kind : GroupKind) (sub : Ast) (span : Span)
  /-- Two or more items in sequence. -/
  | concat (items : List Ast) (span : Span)
  /-- Two or more alternatives. -/
  | alternation (items : List Ast) (span : Span)
  deriving Repr, Inhabited

/-- The span a node covers. -/
def Ast.span : Ast → Span
  | .literal lit => lit.span
  | .empty s | .flags _ s | .dot s | .assertion _ s | .unicodeClass _ _ s
  | .perlClass _ _ s | .bracketed _ _ s | .repetition _ _ _ _ s | .group _ _ s | .concat _ s
  | .alternation _ s => s

/-- A sequence of nodes as one node: nothing is empty, one node is itself. -/
def Ast.ofConcat (items : List Ast) (span : Span) : Ast :=
  match items with
  | [] => .empty span
  | [a] => a
  | _ => .concat items span

/-- The span a class item covers. -/
def ClassTree.span : ClassTree → Span
  | .literal lit => lit.span
  | .range lo hi => ⟨lo.span.start, hi.span.stop⟩
  | .empty s | .ascii _ _ s | .unicode _ _ s | .perl _ _ s | .bracketed _ _ s | .union _ s
  | .op _ _ _ s => s

/-- Items of a class union as one item: nothing is empty, one item is itself. -/
def ClassTree.ofUnion (items : List ClassTree) (span : Span) : ClassTree :=
  match items with
  | [] => .empty span
  | [a] => a
  | _ => .union items span

end HttpTelemetry.Pattern
