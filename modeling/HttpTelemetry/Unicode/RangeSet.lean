/-!
# Sets of code points

A `RangeSet` is a set of code points kept as closed ranges, sorted by start, with no two
ranges overlapping or touching. Every character class of the pattern language and every
Unicode property table of the library is one. `RangeSet.normalize` brings any list of ranges
into that form; union, intersection, difference and complement work on the normal form, and
membership is a binary search.

The tables are written as text, `"2d 41-5a 61-7a"` for `[-A-Za-z]`: a range in hexadecimal,
or a single code point for a range of one. The few tables every pattern may need are read once;
the property tables are read when a pattern names them.
-/

namespace HttpTelemetry.Unicode

/-- The largest code point. -/
def maxCodePoint : Nat := 0x10FFFF

/-- A set of code points as sorted, disjoint, non-touching closed ranges. -/
structure RangeSet where
  ranges : List (Nat × Nat)
  deriving Repr, DecidableEq, Inhabited

/-- Merges sorted ranges that overlap or touch. -/
def mergeSorted : List (Nat × Nat) → List (Nat × Nat)
  | [] => []
  | [r] => [r]
  | (a, b) :: (c, d) :: rest =>
    if c ≤ b + 1 then mergeSorted ((a, max b d) :: rest)
    else (a, b) :: mergeSorted ((c, d) :: rest)

/-- The normal form of any list of ranges; empty ranges (`lo > hi`) are dropped. -/
def RangeSet.normalize (rs : List (Nat × Nat)) : RangeSet :=
  let kept := rs.filter (fun r => r.1 ≤ r.2)
  ⟨mergeSorted (kept.mergeSort (fun x y => x.1 ≤ y.1))⟩

def RangeSet.empty : RangeSet := ⟨[]⟩

/-- All code points. -/
def RangeSet.full : RangeSet := ⟨[(0, maxCodePoint)]⟩

def RangeSet.single (c : Nat) : RangeSet := ⟨[(c, c)]⟩

def RangeSet.union (s t : RangeSet) : RangeSet := RangeSet.normalize (s.ranges ++ t.ranges)

/-- The code points up to `maxCodePoint` outside the set; `start` is the first one not yet
decided. -/
def complementFrom (start : Nat) : List (Nat × Nat) → List (Nat × Nat)
  | [] => if start ≤ maxCodePoint then [(start, maxCodePoint)] else []
  | (a, b) :: rest =>
    (if start < a then [(start, a - 1)] else []) ++ complementFrom (b + 1) rest

def RangeSet.complement (s : RangeSet) : RangeSet := ⟨complementFrom 0 s.ranges⟩

/-- The overlap of one range with every range of a list. -/
def clipAll (r : Nat × Nat) (rs : List (Nat × Nat)) : List (Nat × Nat) :=
  rs.filterMap fun q =>
    let lo := max r.1 q.1
    let hi := min r.2 q.2
    if lo ≤ hi then some (lo, hi) else none

def RangeSet.inter (s t : RangeSet) : RangeSet :=
  RangeSet.normalize (s.ranges.flatMap (fun r => clipAll r t.ranges))

def RangeSet.diff (s t : RangeSet) : RangeSet := s.inter t.complement

/-- Code points in exactly one of the two sets. -/
def RangeSet.symmDiff (s t : RangeSet) : RangeSet := (s.union t).diff (s.inter t)

/-- Every member is an ASCII character. -/
def RangeSet.isAscii (s : RangeSet) : Bool := s.ranges.all (·.2 ≤ 0x7F)

/-- Binary search for the range holding `c` among `rs[lo:hi]`. -/
def searchRanges (rs : Array (Nat × Nat)) (c : Nat) (lo hi : Nat) : Bool :=
  if _h : lo < hi then
    let mid := (lo + hi) / 2
    match rs[mid]? with
    | none => false
    | some (a, b) =>
      if c < a then searchRanges rs c lo mid
      else if b < c then searchRanges rs c (mid + 1) hi
      else true
  else false
termination_by hi - lo

/-- Membership by a scan of the ranges. -/
def RangeSet.contains (s : RangeSet) (c : Nat) : Bool :=
  s.ranges.any (fun r => r.1 ≤ c && c ≤ r.2)

/-- A range set with an array beside it for fast membership. -/
structure RangeTable where
  set : RangeSet
  array : Array (Nat × Nat)

def RangeTable.ofSet (s : RangeSet) : RangeTable := ⟨s, s.ranges.toArray⟩

/-- Membership by binary search. -/
def RangeTable.contains (t : RangeTable) (c : Nat) : Bool :=
  searchRanges t.array c 0 t.array.size

/-- The value of a lowercase hexadecimal digit; the tables write codes after numbers with a
capital first letter, so capitals end a number. -/
def hexValue (c : Char) : Option Nat :=
  if '0' ≤ c ∧ c ≤ '9' then some (c.toNat - '0'.toNat)
  else if 'a' ≤ c ∧ c ≤ 'f' then some (c.toNat - 'a'.toNat + 10)
  else none

/-- Reads the hexadecimal digits at the front: their value and what follows. -/
def readHex (acc : Nat) : List Char → Nat × List Char
  | [] => (acc, [])
  | c :: rest =>
    match hexValue c with
    | some v => readHex (acc * 16 + v) rest
    | none => (acc, c :: rest)

/-- Reads ranges separated by blanks: `lo-hi`, or `lo` alone for the range of one code point. -/
def readRanges : List Char → List (Nat × Nat)
  | [] => []
  | ' ' :: rest => readRanges rest
  | c :: rest =>
    let (lo, afterLo) := readHex 0 (c :: rest)
    match afterLo with
    | '-' :: more =>
      let (hi, afterHi) := readHex 0 more
      if afterHi.length < rest.length then (lo, hi) :: readRanges afterHi else []
    | _ => if afterLo.length < rest.length + 1 then (lo, lo) :: readRanges afterLo else []
termination_by cs => cs.length

/-- A set written as hexadecimal ranges. -/
def RangeSet.ofText (text : String) : RangeSet :=
  RangeSet.normalize (readRanges text.toList)

/-- A table written as hexadecimal ranges. -/
def RangeTable.ofText (text : String) : RangeTable :=
  RangeTable.ofSet (RangeSet.ofText text)

end HttpTelemetry.Unicode
