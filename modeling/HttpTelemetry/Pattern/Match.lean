import HttpTelemetry.Pattern.Hir
import HttpTelemetry.Unicode.Word
/-!
# Matching a text

`Hir.matches h s` decides whether `h` matches somewhere in `s`, as a search does: a match may
begin and end at any position, and only the looks (`^`, `$`, word boundaries) tie it to the
ends of the text. The matcher reads `s` one character at a time and keeps the set of
continuations: lists of expressions that must still match from the current position on, in
order; a new attempt begins at every position. Stepping an expression over a character gives the continuations
left inside it after that character; a sequence steps its first item, and also the rest when
the first item can match the empty string here. Looks are decided by the characters on either
side of the current position, which the step knows, so a continuation stays a plain list of
expressions.

Repetitions count down: after one pass through the item, `min` and `max` drop by one. An
item that matches empty may use up one of the required passes without reading anything.
-/

namespace HttpTelemetry.Pattern

open HttpTelemetry.Unicode

/-- The characters on either side of a position; `none` at an end of the text. -/
structure Around where
  before : Option Char
  after : Option Char
  deriving Repr, DecidableEq

/-- Word characters for Unicode word boundaries. -/
def isWordChar (c : Char) : Bool := word.contains c.toNat

/-- Word characters for ASCII word boundaries. -/
def isAsciiWordChar (c : Char) : Bool := c.toNat < 128 && (c.isAlphanum || c == '_')

/-- Whether a look holds between two characters. -/
def Look.holds (l : Look) (a : Around) : Bool :=
  let w := fun (test : Char → Bool) (c : Option Char) => (c.map test).getD false
  match l with
  | .start => a.before.isNone
  | .finish => a.after.isNone
  | .startLF => a.before.isNone || a.before == some '\n'
  | .finishLF => a.after.isNone || a.after == some '\n'
  | .startCRLF =>
    a.before.isNone || a.before == some '\n' || (a.before == some '\r' && a.after != some '\n')
  | .finishCRLF =>
    a.after.isNone || a.after == some '\r' || (a.after == some '\n' && a.before != some '\r')
  | .wordUnicode => w isWordChar a.before != w isWordChar a.after
  | .notWordUnicode => w isWordChar a.before == w isWordChar a.after
  | .wordAscii => w isAsciiWordChar a.before != w isAsciiWordChar a.after
  | .notWordAscii => w isAsciiWordChar a.before == w isAsciiWordChar a.after
  | .wordStartUnicode => !w isWordChar a.before && w isWordChar a.after
  | .wordEndUnicode => w isWordChar a.before && !w isWordChar a.after
  | .wordStartAscii => !w isAsciiWordChar a.before && w isAsciiWordChar a.after
  | .wordEndAscii => w isAsciiWordChar a.before && !w isAsciiWordChar a.after
  | .wordStartHalfUnicode => !w isWordChar a.before
  | .wordEndHalfUnicode => !w isWordChar a.after
  | .wordStartHalfAscii => !w isAsciiWordChar a.before
  | .wordEndHalfAscii => !w isAsciiWordChar a.after

mutual
/-- Whether an expression matches the empty string at a position. -/
def Hir.nullable (a : Around) : Hir → Bool
  | .empty => true
  | .literal cs => cs.isEmpty
  | .cls _ => false
  | .look l => l.holds a
  | .repetition min _ _ sub => min == 0 || sub.nullable a
  | .capture _ _ sub => sub.nullable a
  | .concat items => Hir.nullableAll a items
  | .alternation items => Hir.nullableAny a items

/-- Whether every expression of a sequence matches the empty string at a position. -/
def Hir.nullableAll (a : Around) : List Hir → Bool
  | [] => true
  | h :: rest => h.nullable a && Hir.nullableAll a rest

def Hir.nullableAny (a : Around) : List Hir → Bool
  | [] => false
  | h :: rest => h.nullable a || Hir.nullableAny a rest
end

/-- The continuations of a repetition after one character, given those of its item: a pass
through the item that reads the character, then the remaining passes; or, while passes are
required and the item matches empty, one pass that reads nothing. -/
def stepRepetition (itemSteps : List (List Hir)) (itemNullable : Bool) (greedy : Bool) (item : Hir) :
    Nat → Option Nat → List (List Hir)
  | min, max =>
    if max == some 0 then [] else
    let rest := Hir.repetition (min - 1) (max.map (· - 1)) greedy item
    let direct := itemSteps.map (· ++ [rest])
    match min with
    | 0 => direct
    | m + 1 =>
      if itemNullable then direct ++ stepRepetition itemSteps itemNullable greedy item m (max.map (· - 1))
      else direct

mutual
/-- The continuations left inside an expression after it reads `c` at a position. -/
def Hir.step (a : Around) (c : Char) : Hir → List (List Hir)
  | .empty | .look _ | .literal [] => []
  | .literal (d :: rest) => if d == c then [if rest.isEmpty then [] else [.literal rest]] else []
  | .cls s => if s.contains c.toNat then [[]] else []
  | .capture _ _ sub => sub.step a c
  | .concat items => Hir.stepSeq a c items
  | .alternation items => Hir.stepAny a c items
  | .repetition min max greedy sub => stepRepetition (sub.step a c) (sub.nullable a) greedy sub min max

/-- The continuations of a sequence after it reads `c`. -/
def Hir.stepSeq (a : Around) (c : Char) : List Hir → List (List Hir)
  | [] => []
  | h :: rest =>
    (h.step a c).map (· ++ rest) ++ (if h.nullable a then Hir.stepSeq a c rest else [])

def Hir.stepAny (a : Around) (c : Char) : List Hir → List (List Hir)
  | [] => []
  | h :: rest => h.step a c ++ Hir.stepAny a c rest
end

/-- Whether a match of `h` ends somewhere in the rest of the text, given the continuations of
the attempts begun so far and `before`, the character read last. A new attempt begins at every
position, and a match ends wherever a continuation can match the empty string. -/
def Hir.searchFrom (h : Hir) (states : List (List Hir)) (before : Option Char) : List Char → Bool
  | [] => ([h] :: states).any (Hir.nullableAll ⟨before, none⟩)
  | c :: rest =>
    let a : Around := ⟨before, some c⟩
    let live := [h] :: states
    live.any (Hir.nullableAll a) ||
      Hir.searchFrom h (live.flatMap (Hir.stepSeq a c)).eraseDups (some c) rest

/-- Whether an expression matches somewhere in the text. A pattern anchored at both ends
matches somewhere exactly when it matches the whole text. -/
def Hir.matches (h : Hir) (s : String) : Bool := Hir.searchFrom h [] none s.toList

end HttpTelemetry.Pattern
