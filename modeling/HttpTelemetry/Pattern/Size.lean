import HttpTelemetry.Pattern.Hir
import Std.Data.HashMap
/-!
# The size of a compiled pattern

A pattern is compiled into a Thompson automaton over bytes, once reading forward and once
reading backward, and neither may need more than `sizeLimit` bytes. This module builds both
automata the way the compiler does, keeping only what their size depends on: every state
takes 32 bytes, a state with a list of byte-range transitions 8 more per transition, and a
branching state 4 more per branch, counted as branches are added.

The size depends on the numbering of the states: non-ASCII classes are compiled through
their UTF-8 byte sequences, forward into a trie whose equal nodes are found again through a
table of 10000 slots, backward into one chain per sequence whose tails are found again through
a table of 1000 slots. A slot holds the last node stored in it, and the slot is a hash of the
node, state numbers included, so two nodes that meet in one slot are not merged.

Building stops at the first state that takes the automaton over the limit.
-/

namespace HttpTelemetry.Pattern

open HttpTelemetry.Unicode

/-- The most bytes a compiled pattern may take. -/
def sizeLimit : Nat := 10 * Nat.pow 2 20

/-- The bytes of one state. -/
def stateBytes : Nat := 32

/-- The bytes of one byte-range transition in a list of transitions. -/
def transitionBytes : Nat := 8

/-- The bytes of one branch of a branching state. -/
def branchBytes : Nat := 4

/-- A transition on the bytes `lo` to `hi` to the state `next`. -/
structure Transition where
  lo : Nat
  hi : Nat
  next : Nat
  deriving BEq, Repr

/-- What the size of an automaton under construction depends on: for every state whether it
branches, and the bytes of all states beyond their fixed size. -/
structure Builder where
  branching : Array Bool := #[]
  extra : Nat := 0

/-- The bytes the automaton takes. -/
def Builder.memory (b : Builder) : Nat := stateBytes * b.branching.size + b.extra

/-- Building an automaton; it fails once the automaton exceeds the size limit. -/
abbrev BuildM := StateT Builder (Except Unit)

/-- Fails if the automaton exceeds the size limit. -/
def checkLimit : BuildM Unit := do
  if (← get).memory > sizeLimit then throw ()

/-- Adds a state that takes `extra` bytes beyond the fixed size, and returns its number. -/
def addState (branching : Bool) (extra : Nat) : BuildM Nat := do
  let id ← modifyGet fun b =>
    (b.branching.size, { b with branching := b.branching.push branching, extra := b.extra + extra })
  checkLimit
  return id

/-- A state that only passes on: an empty step, a look, a capture slot or the match. -/
def addPlain : BuildM Nat := addState false 0

/-- A state with one byte-range transition. -/
def addRange : BuildM Nat := addState false 0

/-- A state with a list of `n` byte-range transitions. -/
def addSparse (n : Nat) : BuildM Nat := addState false (transitionBytes * n)

/-- A branching state with `n` branches so far. -/
def addUnion (n : Nat) : BuildM Nat := addState true (branchBytes * n)

/-- Links a state to the next one; a branching state gains a branch. -/
def patch (source : Nat) : BuildM Unit := do
  if (← get).branching.getD source false then
    modify fun b => { b with extra := b.extra + branchBytes }
    checkLimit

/-- A compiled piece: the state it starts at and the state it ends at. -/
structure Piece where
  start : Nat
  finish : Nat

/-- One step of the FNV-1a hash over 64-bit words. -/
def fnvStep (h : UInt64) (v : Nat) : UInt64 := (h ^^^ v.toUInt64) * 1099511628211

/-- The start of the FNV-1a hash. -/
def fnvStart : UInt64 := 14695981039346656037

/-- The slot of a node of byte-range transitions in a table of `slots` slots. -/
def transitionsSlot (ts : Array Transition) (slots : Nat) : Nat :=
  (ts.foldl (fun h t => fnvStep (fnvStep (fnvStep h t.lo) t.hi) t.next) fnvStart).toNat % slots

/-- The slot of a chain link `(next, lo, hi)` in a table of `slots` slots. -/
def linkSlot (next lo hi : Nat) (slots : Nat) : Nat :=
  (fnvStep (fnvStep (fnvStep fnvStart next) lo) hi).toNat % slots

/-- The UTF-8 bytes of a code point. -/
def utf8Bytes (c : Nat) : List Nat :=
  if c < 0x80 then [c]
  else if c < 0x800 then [0xC0 + c / 64, 0x80 + c % 64]
  else if c < 0x10000 then [0xE0 + c / 4096, 0x80 + c / 64 % 64, 0x80 + c % 64]
  else [0xF0 + c / 262144, 0x80 + c / 4096 % 64, 0x80 + c / 64 % 64, 0x80 + c % 64]

/-- The largest code point of `n` UTF-8 bytes. -/
def maxScalarOfLength : Nat → Nat
  | 1 => 0x7F
  | 2 => 0x7FF
  | 3 => 0xFFFF
  | _ => 0x10FFFF

/-- The first split that makes a range of code points expressible as one sequence of byte
ranges: at the surrogates, at a change of encoded length, or at a boundary of continuation
bytes. -/
def splitRange (s e : Nat) : Option ((Nat × Nat) × (Nat × Nat)) :=
  if s < 0xE000 && e > 0xD7FF then some ((s, 0xD7FF), (0xE000, e)) else
  match [1, 2, 3].find? (fun i => s ≤ maxScalarOfLength i && maxScalarOfLength i < e) with
  | some i => some ((s, maxScalarOfLength i), (maxScalarOfLength i + 1, e))
  | none =>
    if e ≤ 0x7F then none else
    [1, 2, 3].findSome? fun i =>
      let unit := Nat.pow 2 (6 * i)
      if s / unit != e / unit then
        if s % unit != 0 then some ((s, s - s % unit + unit - 1), (s - s % unit + unit, e))
        else if e % unit != unit - 1 then some ((s, e - e % unit - 1), (e - e % unit, e))
        else none
      else none

/-- The UTF-8 byte-range sequences of a range of code points, in increasing order; a range
never needs more than a few dozen splits. -/
def utf8Sequences (lo hi : Nat) : List (List (Nat × Nat)) :=
  go 200 [(lo, hi)]
where
  go : Nat → List (Nat × Nat) → List (List (Nat × Nat))
    | 0, _ => []
    | _, [] => []
    | fuel + 1, (s, e) :: stack =>
      if s > e then go fuel stack else
      match splitRange s e with
      | some (first, second) => go fuel (first :: second :: stack)
      | none => (utf8Bytes s).zip (utf8Bytes e) :: go fuel stack

/-- The byte-range sequences of a set of code points, in increasing order. -/
def sequencesOf (s : RangeSet) : List (List (Nat × Nat)) :=
  s.ranges.flatMap fun r => utf8Sequences r.1 r.2

/-! ## Classes compiled forward -/

/-- A node of the trie of byte-range sequences not yet compiled: its finished transitions and
the range of its last transition, whose target is not known yet. -/
structure TrieNode where
  transitions : Array Transition := #[]
  last : Option (Nat × Nat) := none
  deriving Inhabited

/-- The trie compiler: the end state of the class, the path of nodes not yet compiled, and the
table of compiled nodes by slot. -/
structure TrieCompiler where
  target : Nat
  path : Array TrieNode
  compiled : Std.HashMap Nat (Array Transition × Nat)

/-- The slots of the table of compiled nodes. -/
def trieSlots : Nat := 10000

/-- The state of a node: the one stored in its slot if that holds this very node, else a new
state that then takes the slot. -/
def TrieCompiler.compileNode (c : TrieCompiler) (node : Array Transition) :
    BuildM (Nat × TrieCompiler) := do
  let slot := transitionsSlot node trieSlots
  match c.compiled.get? slot with
  | some (key, id) =>
    if key == node then return (id, c)
    else
      let id ← addSparse node.size
      return (id, { c with compiled := c.compiled.insert slot (node, id) })
  | none =>
    let id ← addSparse node.size
    return (id, { c with compiled := c.compiled.insert slot (node, id) })

/-- A node's transitions with its last transition pointed at `next`. -/
def TrieNode.freeze (n : TrieNode) (next : Nat) : Array Transition :=
  match n.last with
  | some (lo, hi) => n.transitions.push ⟨lo, hi, next⟩
  | none => n.transitions

/-- Points the last transition of the deepest node of the path at `next`. -/
def TrieCompiler.freezeTop (c : TrieCompiler) (next : Nat) : TrieCompiler :=
  match c.path.back? with
  | some n => { c with path := c.path.pop.push { transitions := n.freeze next } }
  | none => c

/-- Compiles the nodes of the path below depth `keep`, deepest first, and points the last
transition of the node at depth `keep` at the result. -/
def TrieCompiler.compileFrom (c : TrieCompiler) (keep : Nat) : BuildM TrieCompiler :=
  go c.path.size c c.target
where
  go : Nat → TrieCompiler → Nat → BuildM TrieCompiler
    | fuel + 1, c, next =>
      if keep + 1 < c.path.size then do
        let node := c.path.back!.freeze next
        let c := { c with path := c.path.pop }
        let (id, c) ← c.compileNode node
        go fuel c id
      else return c.freezeTop next
    | 0, c, next => return c.freezeTop next

/-- Adds one byte-range sequence; sequences come in increasing order. -/
def TrieCompiler.add (c : TrieCompiler) (seq : List (Nat × Nat)) : BuildM TrieCompiler := do
  let shared := ((seq.zip c.path.toList).takeWhile fun (r, n) => n.last == some r).length
  let c ← c.compileFrom shared
  match seq.drop shared with
  | [] => return c
  | first :: rest =>
    let path := match c.path.back? with
      | some n => c.path.pop.push { n with last := some first }
      | none => c.path
    return { c with path := rest.foldl (fun p r => p.push { last := some r }) path }

/-- A class compiled forward through the trie of its byte-range sequences. -/
def classForward (s : RangeSet) : BuildM Piece := do
  let target ← addPlain
  let mut c : TrieCompiler := { target, path := #[{}], compiled := {} }
  for seq in sequencesOf s do
    c ← c.add seq
  c ← c.compileFrom 0
  let root := (c.path[0]?.map (·.transitions)).getD #[]
  let (start, _) ← c.compileNode root
  return ⟨start, target⟩

/-! ## Classes compiled backward -/

/-- The slots of the table of chain links. -/
def linkSlots : Nat := 1000

/-- A class compiled backward: a branching state with one chain of byte ranges per sequence,
last byte first, all ending in one end state; a chain reuses the tail of an earlier chain that
its slot still holds. -/
def classBackward (s : RangeSet) : BuildM Piece := do
  let union ← addUnion 0
  let finish ← addPlain
  let mut links : Std.HashMap Nat ((Nat × Nat × Nat) × Nat) := {}
  for seq in sequencesOf s do
    let mut next := finish
    for (lo, hi) in seq do
      let slot := linkSlot next lo hi linkSlots
      match links.get? slot with
      | some (key, id) =>
        if key == (next, lo, hi) then
          next := id
        else
          let id ← addRange
          links := links.insert slot ((next, lo, hi), id)
          next := id
      | none =>
        let id ← addRange
        links := links.insert slot ((next, lo, hi), id)
        next := id
    patch union
  return ⟨union, finish⟩

/-- A class of ASCII characters: one state with a transition per range, and an end state. -/
def classAscii (s : RangeSet) : BuildM Piece := do
  let finish ← addPlain
  let start ← addSparse s.ranges.length
  return ⟨start, finish⟩

/-- A class, in the given direction. -/
def compileClass (backward : Bool) (s : RangeSet) : BuildM Piece :=
  if s.isAscii then classAscii s
  else if backward then classBackward s
  else classForward s

/-! ## Alternatives of literals -/

/-- A node of a trie of literals: its transitions by byte, and the points among them where a
literal ends; transitions after such a point rank below that match. -/
structure LiteralNode where
  transitions : Array (Nat × Nat) := #[]
  chunkEnds : Array Nat := #[]

/-- The start of the transitions after the last match. -/
def LiteralNode.activeStart (n : LiteralNode) : Nat := n.chunkEnds.back?.getD 0

/-- The transitions of a node between matches, in order, the ones after the last match last. -/
def LiteralNode.chunks (n : LiteralNode) : List (List (Nat × Nat)) :=
  let bounds := (0 :: n.chunkEnds.toList).zip (n.chunkEnds.toList ++ [n.transitions.size])
  bounds.map fun (a, b) => (n.transitions.extract a b).toList

/-- Follows or adds the transition on `byte` after the last match of node `source`. -/
def literalStep (trie : Array LiteralNode) (source byte : Nat) : Array LiteralNode × Nat :=
  let node := trie.getD source {}
  let start := node.activeStart
  let active := (node.transitions.extract start node.transitions.size).toList
  match active.find? (·.1 == byte) with
  | some (_, next) => (trie, next)
  | none =>
    let pos := start + (active.filter (·.1 < byte)).length
    let next := trie.size
    let node := { node with transitions := node.transitions.insertIdxIfInBounds pos (byte, next) }
    ((trie.set! source node).push {}, next)

/-- Adds a literal to the trie, its bytes in reading order. -/
def addLiteral (trie : Array LiteralNode) (bytes : List Nat) : Array LiteralNode :=
  let (trie, last) := bytes.foldl (fun (t, at_) b => literalStep t at_ b) (trie, 0)
  let node := trie.getD last {}
  if node.transitions.isEmpty && !node.chunkEnds.isEmpty then trie
  else trie.set! last { node with chunkEnds := node.chunkEnds.push node.transitions.size }

/-- Compiles the trie below a node that has transitions, depth first; `fuel` bounds the depth.
Each run of transitions between matches becomes one state (a single transition or a list), the
matches in between become branches to the end state, and a branching state joins them. -/
def compileLiteralNode (trie : Array LiteralNode) (finish : Nat) : Nat → Nat → BuildM Nat
  | 0, _ => addUnion 0
  | fuel + 1, id => do
    let node := trie.getD id {}
    let mut branches : Nat := 0
    let mut first := true
    for chunk in node.chunks do
      if !first then branches := branches + 1
      first := false
      let mut count := 0
      for (_, next) in chunk do
        if !(trie.getD next {}).transitions.isEmpty then
          let _ ← compileLiteralNode trie finish fuel next
        count := count + 1
      if count == 1 then
        let _ ← addRange
        branches := branches + 1
      else if count ≥ 2 then
        let _ ← addSparse count
        branches := branches + 1
    addUnion branches

/-- Alternatives that are all literals, compiled as a trie of their bytes. -/
def compileLiterals (backward : Bool) (literals : List (List Nat)) : BuildM Piece := do
  let trie := literals.foldl (fun t bytes => addLiteral t (if backward then bytes.reverse else bytes))
    #[{}]
  let finish ← addPlain
  let start ← compileLiteralNode trie finish trie.size 0
  return ⟨start, finish⟩

/-! ## Expressions -/

/-- The UTF-8 bytes of a literal string. -/
def literalBytes (cs : List Char) : List Nat := cs.flatMap fun c => utf8Bytes c.toNat

/-- A run of pieces linked one to the next. -/
def linkPieces (pieces : List Piece) : BuildM Piece := do
  match pieces with
  | [] => return ⟨0, 0⟩
  | p :: rest =>
    let mut finish := p.finish
    for q in rest do
      patch finish
      finish := q.finish
    return ⟨p.start, finish⟩

/-- The literal text, as a chain of one state per byte, in reading order. -/
def compileLiteral (backward : Bool) (cs : List Char) : BuildM Piece := do
  let bytes := literalBytes cs
  let ordered := if backward then bytes.reverse else bytes
  let mut pieces : Array Piece := #[]
  for _ in ordered do
    let id ← addRange
    pieces := pieces.push ⟨id, id⟩
  if pieces.isEmpty then
    let id ← addPlain
    return ⟨id, id⟩
  linkPieces pieces.toList

mutual
/-- Compiles an expression; backward compilation keeps no capture states. `fuel` bounds the
depth of the expression. -/
def Hir.compile (backward : Bool) : Nat → Hir → BuildM Piece
  | 0, _ => do let id ← addPlain; return ⟨id, id⟩
  | fuel + 1, h =>
    match h with
    | .empty | .look _ => do let id ← addPlain; return ⟨id, id⟩
    | .literal cs => compileLiteral backward cs
    | .cls s => compileClass backward s
    | .capture _ _ sub =>
      if backward then sub.compile backward fuel
      else do
        let start ← addPlain
        let inner ← sub.compile backward fuel
        let finish ← addPlain
        patch start
        patch inner.finish
        return ⟨start, finish⟩
    | .concat items => Hir.compileSeq backward fuel (if backward then items.reverse else items)
    | .alternation items =>
      match items.mapM (fun h => match h with | .literal cs => some cs | _ => none) with
      | some lits =>
        if lits.length ≥ 2 then compileLiterals backward (lits.map literalBytes)
        else Hir.compileAlternatives backward fuel items
      | none => Hir.compileAlternatives backward fuel items
    | .repetition min max _ sub => Hir.compileRepetition backward fuel min max sub
termination_by fuel _ => (fuel, 0, 0)

/-- Compiles a sequence, each item linked to the next. -/
def Hir.compileSeq (backward : Bool) (fuel : Nat) : List Hir → BuildM Piece
  | [] => do let id ← addPlain; return ⟨id, id⟩
  | h :: rest => do
    let first ← h.compile backward fuel
    Hir.compileSeqFrom backward fuel first rest
termination_by items => (fuel, 1, items.length + 1)

/-- Compiles the rest of a sequence after the piece compiled so far. -/
def Hir.compileSeqFrom (backward : Bool) (fuel : Nat) (sofar : Piece) : List Hir → BuildM Piece
  | [] => return sofar
  | h :: rest => do
    let next ← h.compile backward fuel
    patch sofar.finish
    Hir.compileSeqFrom backward fuel ⟨sofar.start, next.finish⟩ rest
termination_by items => (fuel, 1, items.length)

/-- `n` copies of an expression in sequence; no copy is the empty expression. -/
def Hir.compileCopies (backward : Bool) (fuel : Nat) (h : Hir) : Nat → BuildM Piece
  | 0 => do let id ← addPlain; return ⟨id, id⟩
  | n + 1 => do
    let first ← h.compile backward fuel
    Hir.compileCopiesFrom backward fuel h first n
termination_by n => (fuel, 1, n + 1)

/-- `n` more copies after the piece compiled so far. -/
def Hir.compileCopiesFrom (backward : Bool) (fuel : Nat) (h : Hir) (sofar : Piece) :
    Nat → BuildM Piece
  | 0 => return sofar
  | n + 1 => do
    let next ← h.compile backward fuel
    patch sofar.finish
    Hir.compileCopiesFrom backward fuel h ⟨sofar.start, next.finish⟩ n
termination_by n => (fuel, 1, n)

/-- Alternatives: the first two compiled, then a branching state and an end state, then the
rest, each joined to both. -/
def Hir.compileAlternatives (backward : Bool) (fuel : Nat) : List Hir → BuildM Piece
  | [] => do let id ← addPlain; return ⟨id, id⟩
  | [h] => h.compile backward fuel
  | h1 :: h2 :: rest => do
    let first ← h1.compile backward fuel
    let second ← h2.compile backward fuel
    let union ← addUnion 0
    let finish ← addPlain
    patch union
    patch first.finish
    patch union
    patch second.finish
    Hir.compileMoreAlternatives backward fuel union finish rest
termination_by items => (fuel, 1, items.length)

/-- The alternatives after the second one. -/
def Hir.compileMoreAlternatives (backward : Bool) (fuel : Nat) (union finish : Nat) :
    List Hir → BuildM Piece
  | [] => return ⟨union, finish⟩
  | h :: rest => do
    let p ← h.compile backward fuel
    patch union
    patch p.finish
    Hir.compileMoreAlternatives backward fuel union finish rest
termination_by items => (fuel, 1, items.length)

/-- A repetition: zero or one; at least `n`; exactly `n`; or `min` to `max`. -/
def Hir.compileRepetition (backward : Bool) (fuel : Nat) (min : Nat) (max : Option Nat)
    (sub : Hir) : BuildM Piece :=
  match min, max with
  | 0, some 1 => do
    let union ← addUnion 0
    let inner ← sub.compile backward fuel
    let finish ← addPlain
    patch union
    patch union
    patch inner.finish
    return ⟨union, finish⟩
  | 0, none =>
    if (sub.minLength.getD 0) > 0 then do
      let union ← addUnion 0
      let inner ← sub.compile backward fuel
      patch union
      patch inner.finish
      return ⟨union, union⟩
    else do
      let inner ← sub.compile backward fuel
      let plus ← addUnion 0
      patch inner.finish
      patch plus
      let question ← addUnion 0
      let finish ← addPlain
      patch question
      patch question
      patch plus
      return ⟨question, finish⟩
  | 1, none => do
    let inner ← sub.compile backward fuel
    let union ← addUnion 0
    patch inner.finish
    patch union
    return ⟨inner.start, union⟩
  | n + 2, none => do
    let pre ← Hir.compileCopies backward fuel sub (n + 1)
    let last ← sub.compile backward fuel
    let union ← addUnion 0
    patch pre.finish
    patch last.finish
    patch union
    return ⟨pre.start, union⟩
  | n, some m => do
    let pre ← Hir.compileCopies backward fuel sub n
    if n == m then return pre
    let finish ← addPlain
    let last ← Hir.compileOptionalCopies backward fuel sub finish pre.finish (m - n)
    patch last
    return ⟨pre.start, finish⟩
termination_by (fuel, 2, 0)

/-- `k` optional copies after the state `prev`, each behind a branching state that may skip to
`finish`; returns the end of the last copy. -/
def Hir.compileOptionalCopies (backward : Bool) (fuel : Nat) (sub : Hir) (finish : Nat)
    (prev : Nat) : Nat → BuildM Nat
  | 0 => return prev
  | k + 1 => do
    let union ← addUnion 0
    let inner ← sub.compile backward fuel
    patch prev
    patch union
    patch union
    Hir.compileOptionalCopies backward fuel sub finish inner.finish k
termination_by k => (fuel, 1, k)
end

/-- Builds the automaton of a whole pattern: an empty prefix state, the pattern (inside the
capture of the whole match when reading forward), and the match state. -/
def Hir.build (h : Hir) (backward : Bool) : BuildM Unit := do
  let prefix_ ← addPlain
  let fuel := h.nodes + 1
  let body ←
    if backward then h.compile backward fuel
    else do
      let start ← addPlain
      let inner ← h.compile backward fuel
      let finish ← addPlain
      patch start
      patch inner.finish
      pure ⟨start, finish⟩
  let _ ← addPlain
  patch body.finish
  patch prefix_

/-- Whether building the automaton in the given direction exceeds the size limit. -/
def Hir.exceedsLimit (h : Hir) (backward : Bool) : Bool :=
  match (h.build backward).run {} with
  | .ok _ => false
  | .error _ => true

/-- Whether either compiled automaton would exceed the size limit. -/
def Hir.tooLarge (h : Hir) : Bool :=
  h.exceedsLimit false || h.exceedsLimit true

end HttpTelemetry.Pattern
