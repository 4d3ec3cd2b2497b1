import HttpTelemetry.Unicode.RangeSet
/-!
# Patterns as expressions over sets of characters

The meaning of a pattern, once flags, escapes and classes are resolved: the empty string,
literal strings, sets of characters, zero-width looks at the text around a position, counted
repetitions, groups, sequences and alternatives.

The constructors `Hir.mkConcat`, `Hir.mkAlternation`, `Hir.mkRepetition` and `Hir.mkClass`
bring an expression to the simplified form that the size of the compiled automaton is
measured on: sequences are flat and merge adjacent literals, alternatives of single
characters or classes become one class, alternatives of sequences with a common head share it,
and repetitions of what can only match the empty string repeat at most once. None of these
changes what an expression matches.
-/

namespace HttpTelemetry.Pattern

open HttpTelemetry.Unicode

/-- Zero-width tests on the characters before and after a position. -/
inductive Look where
  | start | finish
  | startLF | finishLF | startCRLF | finishCRLF
  | wordUnicode | notWordUnicode | wordAscii | notWordAscii
  | wordStartUnicode | wordEndUnicode | wordStartAscii | wordEndAscii
  | wordStartHalfUnicode | wordEndHalfUnicode | wordStartHalfAscii | wordEndHalfAscii
  deriving Repr, DecidableEq

/-- A resolved pattern. -/
inductive Hir where
  | empty
  /-- A non-empty literal string. -/
  | literal (chars : List Char)
  /-- One character of a set; the empty set never matches. -/
  | cls (set : RangeSet)
  | look (look : Look)
  /-- `min` to `max` repetitions (`none`: no upper bound), preferring more when greedy. -/
  | repetition (min : Nat) (max : Option Nat) (greedy : Bool) (sub : Hir)
  /-- A capture group with its index and name. -/
  | capture (index : Nat) (name : Option String) (sub : Hir)
  | concat (items : List Hir)
  | alternation (items : List Hir)
  deriving Repr, Inhabited

/-- The expression that never matches. -/
def Hir.fail : Hir := .cls RangeSet.empty

/-- Bytes of the UTF-8 encoding of a code point. -/
def utf8Length (c : Nat) : Nat :=
  if c < 0x80 then 1 else if c < 0x800 then 2 else if c < 0x10000 then 3 else 4

mutual
/-- Structural equality. -/
def Hir.beq : Hir → Hir → Bool
  | .empty, .empty => true
  | .literal a, .literal b => a == b
  | .cls a, .cls b => a == b
  | .look a, .look b => a == b
  | .repetition a b g s, .repetition c d h t => a == c && b == d && g == h && s.beq t
  | .capture i n s, .capture j m t => i == j && n == m && s.beq t
  | .concat xs, .concat ys => Hir.beqAll xs ys
  | .alternation xs, .alternation ys => Hir.beqAll xs ys
  | _, _ => false

def Hir.beqAll : List Hir → List Hir → Bool
  | [], [] => true
  | x :: xs, y :: ys => x.beq y && Hir.beqAll xs ys
  | _, _ => false
end

instance : BEq Hir := ⟨Hir.beq⟩

mutual
/-- The fewest UTF-8 bytes a match takes; `none` when nothing matches. -/
def Hir.minLength : Hir → Option Nat
  | .empty | .look _ => some 0
  | .literal cs => some (cs.foldl (fun n c => n + utf8Length c.toNat) 0)
  | .cls s => s.ranges.head?.map (fun r => utf8Length r.1)
  | .repetition min _ _ sub => sub.minLength.map (· * min)
  | .capture _ _ sub => sub.minLength
  | .concat items => Hir.minLengthSum items
  | .alternation items => Hir.minLengthMin items

def Hir.minLengthSum : List Hir → Option Nat
  | [] => some 0
  | h :: t => do return (← h.minLength) + (← Hir.minLengthSum t)

def Hir.minLengthMin : List Hir → Option Nat
  | [] => none
  | [h] => h.minLength
  | h :: t => do return min (← h.minLength) (← Hir.minLengthMin t)
end

mutual
/-- The most UTF-8 bytes a match takes; `none` when unbounded or when nothing matches. -/
def Hir.maxLength : Hir → Option Nat
  | .empty | .look _ => some 0
  | .literal cs => some (cs.foldl (fun n c => n + utf8Length c.toNat) 0)
  | .cls s => s.ranges.getLast?.map (fun r => utf8Length r.2)
  | .repetition _ max _ sub => do
    let m ← max
    return (← sub.maxLength) * m
  | .capture _ _ sub => sub.maxLength
  | .concat items => Hir.maxLengthSum items
  | .alternation items => Hir.maxLengthMax items

def Hir.maxLengthSum : List Hir → Option Nat
  | [] => some 0
  | h :: t => do return (← h.maxLength) + (← Hir.maxLengthSum t)

def Hir.maxLengthMax : List Hir → Option Nat
  | [] => none
  | [h] => h.maxLength
  | h :: t => do return max (← h.maxLength) (← Hir.maxLengthMax t)
end

/-- A class of one character is that character as a literal. -/
def Hir.mkClass (s : RangeSet) : Hir :=
  match s.ranges with
  | [(a, b)] => if a == b then .literal [Char.ofNat a] else .cls s
  | _ => .cls s

/-- A repetition in simplified form: `{0}` is empty, `{1}` is the item itself, and an item
that only matches the empty string repeats at most once. -/
def Hir.mkRepetition (min : Nat) (max : Option Nat) (greedy : Bool) (sub : Hir) : Hir :=
  let (min, max) :=
    if sub.maxLength == some 0 then (Nat.min min 1, some (Nat.min (max.getD 1) 1)) else (min, max)
  if min == 0 && max == some 0 then .empty
  else if min == 1 && max == some 1 then sub
  else .repetition min max greedy sub

/-- A sequence in simplified form: nested sequences flattened one level, empty items dropped,
adjacent literals merged. -/
def Hir.mkConcat (items : List Hir) : Hir :=
  let flat := items.flatMap fun
    | .concat inner => inner
    | .empty => []
    | h => [h]
  let merged := flat.foldr (fun h acc =>
    match h, acc with
    | .literal a, .literal b :: rest => .literal (a ++ b) :: rest
    | _, _ => h :: acc) []
  match merged with
  | [] => .empty
  | [h] => h
  | hs => .concat hs

/-- The character of a literal of exactly one character. -/
def Hir.singleChar? : Hir → Option Char
  | .literal [c] => some c
  | _ => none

/-- The set of a class. -/
def Hir.classSet? : Hir → Option RangeSet
  | .cls s => some s
  | _ => none

/-- The longest common head of the sequences, if every alternative is a sequence. -/
def commonHead (alts : List Hir) : List Hir :=
  match alts with
  | .concat first :: rest =>
    rest.foldl (fun (prefix_ : List Hir) h =>
      match h with
      | .concat xs => (prefix_.zip xs |>.takeWhile (fun p => p.1 == p.2)).map (·.1)
      | _ => []) first
  | _ => []

/-- Alternatives in simplified form, within `fuel` rounds of taking out common heads: nested
alternatives flattened, single characters or classes merged into one class, and a common head
of sequences taken out, the remaining tails put back in simplified form. -/
def Hir.mkAlternationWithin : Nat → List Hir → Hir
  | fuel, items =>
    let flat := items.flatMap fun
      | .alternation inner => inner
      | h => [h]
    match flat with
    | [] => Hir.fail
    | [h] => h
    | _ =>
      match flat.mapM Hir.singleChar? with
      | some cs => Hir.mkClass (RangeSet.normalize (cs.map fun c => (c.toNat, c.toNat)))
      | none =>
        match flat.mapM Hir.classSet? with
        | some sets => Hir.mkClass (sets.foldl RangeSet.union RangeSet.empty)
        | none =>
          let head := commonHead flat
          match fuel with
          | 0 => .alternation flat
          | fuel + 1 =>
            if head.isEmpty || flat.any (fun h => match h with | .concat _ => false | _ => true)
            then .alternation flat
            else
              let n := head.length
              let tails := flat.map fun
                | .concat xs => Hir.mkConcat (xs.drop n)
                | h => h
              Hir.mkConcat (head ++ [Hir.mkAlternationWithin fuel tails])

mutual
/-- The number of nodes of an expression. Every round of taking out a common head removes at
least one node, so this many rounds always suffice. -/
def Hir.nodes : Hir → Nat
  | .repetition _ _ _ sub => sub.nodes + 1
  | .capture _ _ sub => sub.nodes + 1
  | .concat xs => Hir.nodesAll xs + 1
  | .alternation xs => Hir.nodesAll xs + 1
  | _ => 1

def Hir.nodesAll : List Hir → Nat
  | [] => 0
  | h :: t => h.nodes + Hir.nodesAll t
end

/-- Alternatives in simplified form. -/
def Hir.mkAlternation (items : List Hir) : Hir :=
  Hir.mkAlternationWithin (Hir.nodesAll items) items

end HttpTelemetry.Pattern
