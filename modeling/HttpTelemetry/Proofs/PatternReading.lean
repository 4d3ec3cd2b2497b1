import HttpTelemetry.Route.Table
/-!
# Reading route patterns

The reader keeps its place as a position into the characters of the pattern. Here its place is
seen through `Reader.rest`, the characters from the position on: each primitive of the reader
is one equation on `rest` and the position, and a run of the reader over known text is worked
out by rewriting with these equations. The reader's loops run a body that ignores its round, at
most one round more than the pattern has characters; `rounds` is such a loop, unrolled one round
at a time.

The main result is about the patterns that route templates normalize to: a sequence of pieces,
each a character that stands for itself or the segment pattern `[a-zA-Z0-9-_]+`, anchored as
`^(?:…)$`. Such a pattern reads to the tree `anchoredAst`, and that tree resolves to the
pieces' meanings in sequence between a look for the start and a look for the end of the text.
-/

namespace HttpTelemetry.Pattern

open HttpTelemetry.Unicode

/-! ## The reader, one primitive at a time -/

/-- The characters from the reading position on. -/
def Reader.rest (r : Reader) : List Char := r.chars.toList.drop r.pos

@[simp] theorem Reader.rest_mk (chars : Array Char) (pos : Nat) (w : Bool) (index : Nat)
    (names : List (String × Span)) (groups : List GroupFrame) (classes : List ClassFrame) :
    (Reader.mk chars pos w index names groups classes).rest = chars.toList.drop pos := rfl

@[simp] theorem Reader.drop_pos (r : Reader) : r.chars.toList.drop r.pos = r.rest := rfl

@[simp] theorem Reader.drop_pos_add (r : Reader) (k : Nat) :
    r.chars.toList.drop (r.pos + k) = r.rest.drop k := by
  rw [Reader.rest, List.drop_drop, Nat.add_comm]

theorem Reader.rest_length (r : Reader) : r.rest.length = r.chars.size - r.pos := by
  rw [Reader.rest, List.length_drop, Array.length_toList]

section Primitives

variable (r : Reader)

@[simp] theorem current_run : current.run r = pure (r.rest.headD '\x00', r) := by
  simp only [current, StateT.run_bind, StateT.run_get, pure_bind, StateT.run_pure]
  rw [Array.getD_eq_getD_getElem?, ← Array.getElem?_toList, ← List.head?_drop, Reader.drop_pos]
  cases r.rest <;> rfl

@[simp] theorem atEnd_run : atEnd.run r = pure (r.rest.isEmpty, r) := by
  simp only [atEnd, StateT.run_bind, StateT.run_get, pure_bind, StateT.run_pure]
  have hend : r.pos ≥ r.chars.size ↔ r.rest = [] := by
    rw [← List.length_eq_zero_iff, Reader.rest_length]
    omega
  simp only [hend]
  cases r.rest <;> rfl

@[simp] theorem position_run : position.run r = pure (r.pos, r) := rfl

@[simp] theorem charSpan_run : charSpan.run r = pure (⟨r.pos, r.pos + 1⟩, r) := rfl

@[simp] theorem hereSpan_run : hereSpan.run r = pure (Span.at r.pos, r) := rfl

@[simp] theorem inputSize_run : inputSize.run r = pure (r.chars.size, r) := rfl

/-- Moving on succeeds unless the text is used up, and tells whether a character follows. -/
@[simp] theorem advance_run : advance.run r =
    match r.rest with
    | [] => pure (false, r)
    | _ :: more => pure (!more.isEmpty, { r with pos := r.pos + 1 }) := by
  have hlen := r.rest_length
  simp only [advance, StateT.run_bind, StateT.run_get, pure_bind]
  cases hr : r.rest with
  | nil =>
    rw [hr, List.length_nil] at hlen
    rw [if_pos (by omega)]
    rfl
  | cons d more =>
    rw [hr, List.length_cons] at hlen
    rw [if_neg (by omega)]
    simp only [StateT.run_bind, StateT.run_set, pure_bind, StateT.run_pure]
    have hnext : (r.pos + 1 < r.chars.size) = (more ≠ []) := by
      rw [ne_eq, ← List.length_eq_zero_iff]
      apply propext
      omega
    simp only [hnext, decide_not]
    cases more <;> rfl

@[simp] theorem peek_run : peek.run r = pure (r.rest[1]?, r) := by
  simp only [peek, charAt, StateT.run_bind, position_run, pure_bind, StateT.run_get,
    StateT.run_pure]
  rw [Reader.rest, List.getElem?_drop, Array.getElem?_toList, Nat.add_comm]

variable {r}

@[simp] theorem skipBlanks_run (hw : r.ignoreWhitespace = false) :
    skipBlanks.run r = pure ((), r) := by
  simp [skipBlanks, hw]

@[simp] theorem peekSkipping_run (hw : r.ignoreWhitespace = false) :
    peekSkipping.run r = pure (r.rest[1]?, r) := by
  simp only [peekSkipping, StateT.run_bind, StateT.run_get, pure_bind, hw, Bool.not_false,
    ↓reduceIte, StateT.run_pure]
  rw [Reader.rest, List.getElem?_drop, Array.getElem?_toList, Nat.add_comm]

@[simp] theorem advanceSkipping_run (hw : r.ignoreWhitespace = false) : advanceSkipping.run r =
    match r.rest with
    | [] => pure (false, r)
    | _ :: more => pure (!more.isEmpty, { r with pos := r.pos + 1 }) := by
  simp only [advanceSkipping, StateT.run_bind, advance_run]
  cases hr : r.rest with
  | nil => simp
  | cons d more => cases more <;> simp [hw, hr]

end Primitives

/-! ## Loops -/

/-- A loop whose body ignores its round, run for at most `k` rounds; a `done` ends it early. -/
def rounds {m : Type → Type} [Monad m] {β : Type} (f : β → m (ForInStep β)) : Nat → β → m β
  | 0, b => pure b
  | k + 1, b => do
    match ← f b with
    | .done b => pure b
    | .yield b => rounds f k b

theorem forIn_range'_eq_rounds {m : Type → Type} [Monad m] {β : Type} (f : β → m (ForInStep β))
    (start k : Nat) (b : β) : forIn (List.range' start k) b (fun _ => f) = rounds f k b := by
  induction k generalizing start b with
  | zero => rfl
  | succ k ih =>
    simp only [List.range'_succ, List.forIn_cons, rounds, ih]
    rfl

theorem forIn_eq_rounds {m : Type → Type} [Monad m] {β : Type} (f : β → m (ForInStep β))
    (k : Nat) (b : β) : forIn [:k] b (fun _ => f) = rounds f k b := by
  rw [Std.Legacy.Range.forIn_eq_forIn_range']
  simp [Std.Legacy.Range.size, forIn_range'_eq_rounds]

theorem rounds_run_yield {β : Type} {f : β → ReadM (ForInStep β)} {b b' : β} {r r' : Reader}
    (k : Nat) (h : (f b).run r = pure (.yield b', r')) :
    (rounds f (k + 1) b).run r = (rounds f k b').run r' := by
  simp [rounds, h]

theorem rounds_run_done {β : Type} {f : β → ReadM (ForInStep β)} {b b' : β} {r r' : Reader}
    (k : Nat) (h : (f b).run r = pure (.done b', r')) :
    (rounds f (k + 1) b).run r = pure (b', r') := by
  simp [rounds, h]

/-! ## The segment class

The class `[a-zA-Z0-9-_]` is read in seven rounds: the opening bracket, three ranges, two
single characters and the closing bracket. -/

def segmentClassText : List Char :=
  ['[', 'a', '-', 'z', 'A', '-', 'Z', '0', '-', '9', '-', '_', ']']

def segmentClassAst (p : Nat) : Ast :=
  .bracketed false
    (.union [.range ⟨'a', none, ⟨p + 1, p + 2⟩⟩ ⟨'z', none, ⟨p + 3, p + 4⟩⟩,
      .range ⟨'A', none, ⟨p + 4, p + 5⟩⟩ ⟨'Z', none, ⟨p + 6, p + 7⟩⟩,
      .range ⟨'0', none, ⟨p + 7, p + 8⟩⟩ ⟨'9', none, ⟨p + 9, p + 10⟩⟩,
      .literal ⟨'-', none, ⟨p + 10, p + 11⟩⟩, .literal ⟨'_', none, ⟨p + 11, p + 12⟩⟩]
      ⟨p + 1, p + 12⟩)
    ⟨p, p + 13⟩

section Classes

variable {r : Reader} {rest : List Char} {c : Char} (hw : r.ignoreWhitespace = false)
include hw

theorem readClassOpening_plain (hr : r.rest = '[' :: c :: rest) (h1 : c ≠ '^') (h2 : c ≠ '-')
    (h3 : c ≠ ']') :
    readClassOpening.run r =
      pure ((false, ⟨r.pos, r.pos + 1⟩, UnionAcc.empty (r.pos + 1)),
        { r with pos := r.pos + 1 }) := by
  simp [readClassOpening, hr, hw, h1, h2, h3, forIn_range'_eq_rounds, rounds]

theorem openClass_plain (hr : r.rest = '[' :: c :: rest) (h1 : c ≠ '^') (h2 : c ≠ '-')
    (h3 : c ≠ ']') (u : UnionAcc) :
    (openClass u).run r = pure (UnionAcc.empty (r.pos + 1),
      { r with
        pos := r.pos + 1
        classes := .opened ⟨u, false, ⟨r.pos, r.pos + 1⟩⟩ :: r.classes }) := by
  simp [openClass, readClassOpening_plain hw hr h1 h2 h3]

theorem readBracketed_segmentClass (hr : r.rest = segmentClassText ++ rest)
    (hc : r.classes = []) :
    readBracketed.run r = pure (segmentClassAst r.pos, { r with pos := r.pos + 13 }) := by
  obtain ⟨m, hm⟩ : ∃ m, r.chars.size = m + 7 := by
    have hlen := r.rest_length
    rw [hr, List.length_append] at hlen
    exact ⟨r.chars.size - 7, by simp [segmentClassText] at hlen; omega⟩
  simp only [segmentClassText, List.cons_append, List.nil_append] at hr
  unfold readBracketed
  simp only [StateT.run_bind, inputSize_run, position_run, pure_bind, hm, forIn_eq_rounds]
  -- the opening bracket, then one round for each item and one for the closing bracket
  rw [rounds.eq_2]
  simp [hr, hw, hc, openClass_plain hw hr (by decide) (by decide) (by decide)]
  iterate 6
    rw [rounds.eq_2]
    simp [hr, readClassRange, readClassPrimitive, Primitive.toClassLiteral,
      Primitive.toClassItem, Nat.add_assoc, closeClass, closeClassOp]
  simp [segmentClassAst, UnionAcc.push, UnionAcc.toItem, UnionAcc.empty, ClassTree.ofUnion,
    ClassTree.span, Span.at]

end Classes

@[simp] theorem advanceIf_run (r : Reader) (text : String) : (advanceIf text).run r =
    if r.rest.take text.toList.length = text.toList
    then pure (true, { r with pos := r.pos + text.toList.length })
    else pure (false, r) := by
  simp only [advanceIf, StateT.run_bind, StateT.run_get, pure_bind, Array.toList_extract,
    List.extract_eq_take_drop, Nat.add_sub_cancel_left, Reader.drop_pos, beq_iff_eq]
  split <;> rfl

/-! ## One item of a pattern -/

section Items

variable {r : Reader} {rest : List Char} {c : Char} (hw : r.ignoreWhitespace = false)
include hw

theorem readItem_literal (hr : r.rest = c :: rest)
    (hc : c ∉ ['(', ')', '|', '[', '?', '*', '+', '{', '\\', '.', '^', '$']) (seq : Seq) :
    (readItem seq).run r =
      pure (.yield (seq.push (.literal ⟨c, none, ⟨r.pos, r.pos + 1⟩⟩)),
        { r with pos := r.pos + 1 }) := by
  simp only [List.mem_cons, List.not_mem_nil, or_false, not_or] at hc
  obtain ⟨h1, h2, h3, h4, h5, h6, h7, h8, h9, h10, h11, h12⟩ := hc
  simp only [readItem, StateT.run_bind, skipBlanks_run hw, atEnd_run, current_run, pure_bind, hr,
    List.isEmpty_cons, Bool.false_eq_true, ↓reduceIte, List.headD_cons]
  simp [readPrimitive, hr, h9, Primitive.toAst]

theorem readItem_segmentClass (hr : r.rest = segmentClassText ++ rest) (hc : r.classes = [])
    (seq : Seq) :
    (readItem seq).run r =
      pure (.yield (seq.push (segmentClassAst r.pos)), { r with pos := r.pos + 13 }) := by
  have hopen : r.rest = '[' :: (segmentClassText.tail ++ rest) := by simp [hr, segmentClassText]
  simp [readItem, hopen, hw, readBracketed_segmentClass hw hr hc]

theorem readItem_plus (hr : r.rest = '+' :: rest) (hq : rest.head? ≠ some '?') (seq : Seq)
    (a : Ast) (ha : ∀ sp, a ≠ .empty sp) (ha' : ∀ items sp, a ≠ .flags items sp) :
    (readItem (seq.push a)).run r =
      pure (.yield (seq.push (.repetition 1 none true a ⟨a.span.start, r.pos + 1⟩)),
        { r with pos := r.pos + 1 }) := by
  have hitem : (repeatedItem ⟨seq.items.push a, seq.start⟩).run r = pure (a, r) := by
    cases a <;> simp_all [repeatedItem]
  cases rest with
  | nil =>
    simp [readItem, hr, hw, readUncountedRepetition, hitem, Seq.push]
  | cons d more =>
    simp at hq
    simp [readItem, hr, hw, readUncountedRepetition, hitem, Seq.push, hq]

theorem readItem_end (hr : r.rest = []) (seq : Seq) :
    (readItem seq).run r = pure (.done seq, r) := by
  simp [readItem, hr, hw]

theorem readItem_openGroup (hr : r.rest.take 3 = ['(', '?', ':']) (seq : Seq) :
    (readItem seq).run r =
      pure (.yield ⟨#[], r.pos + 3⟩,
        { r with
          pos := r.pos + 3
          groups :=
            GroupFrame.group ⟨seq, .nonCapturing [], ⟨r.pos, r.pos + 1⟩, false⟩ :: r.groups }) := by
  obtain ⟨more, hrest⟩ : ∃ more, r.rest = '(' :: '?' :: ':' :: more :=
    ⟨r.rest.drop 3, by rw [← List.take_append_drop 3 r.rest, hr]; simp⟩
  simp [readItem, hrest, hw, openGroup, readGroupOpening, readFlags, forIn_range'_eq_rounds, rounds,
    flagState, Nat.add_assoc]

theorem readItem_closeGroup {g : OpenGroup} {gs : List GroupFrame} (hr : r.rest.head? = some ')')
    (hg : r.groups = .group g :: gs) (inner : Seq) :
    (readItem inner).run r =
      pure (.yield (g.outer.push (.group g.kind (inner.toAst r.pos) ⟨g.openSpan.start, r.pos + 1⟩)),
        { r with pos := r.pos + 1, groups := gs, ignoreWhitespace := g.ignoreWhitespace }) := by
  obtain ⟨more, hrest⟩ := List.head?_eq_some_iff.mp hr
  simp [readItem, hrest, hw, closeGroup, hg]

theorem readItem_startLine (hr : r.rest.head? = some '^') (seq : Seq) :
    (readItem seq).run r =
      pure (.yield (seq.push (.assertion .startLine ⟨r.pos, r.pos + 1⟩)),
        { r with pos := r.pos + 1 }) := by
  obtain ⟨more, hrest⟩ := List.head?_eq_some_iff.mp hr
  simp [readItem, hrest, hw, readPrimitive, Primitive.toAst]

theorem readItem_endLine (hr : r.rest.head? = some '$') (seq : Seq) :
    (readItem seq).run r =
      pure (.yield (seq.push (.assertion .endLine ⟨r.pos, r.pos + 1⟩)),
        { r with pos := r.pos + 1 }) := by
  obtain ⟨more, hrest⟩ := List.head?_eq_some_iff.mp hr
  simp [readItem, hrest, hw, readPrimitive, Primitive.toAst]

end Items

end HttpTelemetry.Pattern

/-! ## Pieces of a normalized route pattern -/

namespace HttpTelemetry.Route

open HttpTelemetry.Pattern HttpTelemetry.Unicode

/-- The characters with a meaning of their own in patterns; the literal text of a route template
avoids them. -/
def metaChars : List Char :=
  ['\\', '.', '+', '*', '?', '(', ')', '|', '[', ']', '{', '}', '^', '$']

/-- A piece of a normalized route pattern. -/
inductive Piece where
  | char (c : Char)
  | segment
  deriving DecidableEq

def Piece.text : Piece → List Char
  | .char c => [c]
  | .segment => segmentPattern.toList

/-- A piece means what it says: a character is no meta character. -/
def Piece.Plain : Piece → Prop
  | .char c => c ∉ metaChars
  | .segment => True

/-- The reading rounds a piece takes: one for a character, one for the class and one for the
`+` of the segment pattern. -/
def Piece.rounds : Piece → Nat
  | .char _ => 1
  | .segment => 2

def Piece.roundsAll : List Piece → Nat
  | [] => 0
  | x :: xs => x.rounds + Piece.roundsAll xs

def Piece.ast (p : Nat) : Piece → Ast
  | .char c => .literal ⟨c, none, ⟨p, p + 1⟩⟩
  | .segment => .repetition 1 none true (segmentClassAst p) ⟨p, p + 14⟩

def Piece.asts : Nat → List Piece → List Ast
  | _, [] => []
  | p, x :: xs => x.ast p :: Piece.asts (p + x.text.length) xs

@[simp] theorem Piece.text_char (c : Char) : (Piece.char c).text = [c] := rfl

@[simp] theorem Piece.text_segment : Piece.segment.text = segmentClassText ++ ['+'] := by
  simp [Piece.text, segmentPattern, segmentClassText]

theorem Ast.ofConcat_cons_cons (a b : Ast) (rest : List Ast) (sp : Span) :
    Ast.ofConcat (a :: b :: rest) sp = .concat (a :: b :: rest) sp := rfl

theorem Seq.push_toArray (items : List Ast) (start : Nat) (a : Ast) :
    Seq.push ⟨items.toArray, start⟩ a = ⟨(items ++ [a]).toArray, start⟩ := by
  simp [Seq.push]

theorem Piece.rounds_le_length (x : Piece) : x.rounds ≤ x.text.length := by
  cases x <;> simp [Piece.rounds, segmentClassText]

theorem Piece.roundsAll_le_length (ps : List Piece) :
    Piece.roundsAll ps ≤ (ps.flatMap Piece.text).length := by
  induction ps with
  | nil => simp [Piece.roundsAll]
  | cons x xs ih =>
    have hx := x.rounds_le_length
    simp only [Piece.roundsAll, List.flatMap_cons, List.length_append]
    omega

/-- What follows a piece, when the pieces are followed by `)`, is never a `?`: it would make the
repetition of a segment pattern lazy. -/
theorem head_after_pieces {ps : List Piece} (hps : ∀ x ∈ ps, x.Plain) (rest : List Char) :
    (ps.flatMap Piece.text ++ ')' :: rest).head? ≠ some '?' := by
  cases ps with
  | nil => simp
  | cons x xs =>
    cases x with
    | char c =>
      have hc : c ∉ metaChars := hps (.char c) (List.mem_cons_self ..)
      have hq : c ≠ '?' := fun h => hc (by simp [h, metaChars])
      simp [hq]
    | segment => simp [segmentClassText]

/-- Pieces followed by `)` are read one after another, each to its tree. The induction is on the
pieces; a character takes one round and the segment pattern two. -/
theorem rounds_readItem_pieces (ps : List Piece) (hps : ∀ x ∈ ps, x.Plain) {r : Reader}
    (rest : List Char) (hr : r.rest = ps.flatMap Piece.text ++ ')' :: rest)
    (hw : r.ignoreWhitespace = false) (hc : r.classes = []) (items : List Ast) (start k : Nat) :
    (rounds readItem (k + Piece.roundsAll ps) ⟨items.toArray, start⟩).run r =
      (rounds readItem k ⟨(items ++ Piece.asts r.pos ps).toArray, start⟩).run
        { r with pos := r.pos + (ps.flatMap Piece.text).length } := by
  induction ps generalizing r items with
  | nil => simp [Piece.roundsAll, Piece.asts]
  | cons x xs ih =>
    have hxs : ∀ y ∈ xs, y.Plain := fun y hy => hps y (List.mem_cons_of_mem x hy)
    cases x with
    | char c =>
      have hc' : c ∉ metaChars := hps (.char c) (List.mem_cons_self ..)
      have hplain : c ∉ ['(', ')', '|', '[', '?', '*', '+', '{', '\\', '.', '^', '$'] := by
        intro hmem
        apply hc'
        simp only [List.mem_cons, List.not_mem_nil, or_false] at hmem
        rcases hmem with h | h | h | h | h | h | h | h | h | h | h | h <;> simp [h, metaChars]
      have hrc : r.rest = c :: (xs.flatMap Piece.text ++ ')' :: rest) := by
        simp [hr]
      have hstep := readItem_literal hw hrc hplain ⟨items.toArray, start⟩
      rw [show k + Piece.roundsAll (Piece.char c :: xs) = (k + Piece.roundsAll xs) + 1 by
        simp [Piece.roundsAll, Piece.rounds]; omega, rounds_run_yield _ hstep]
      have hr' : ({ r with pos := r.pos + 1 } : Reader).rest =
          xs.flatMap Piece.text ++ ')' :: rest := by
        simp [hrc]
      rw [Seq.push_toArray, ih hxs hr' hw hc]
      congr 2
      · simp [Piece.asts, Piece.ast]
      · simp
        omega
    | segment =>
      have hrs : r.rest = segmentClassText ++ ('+' :: (xs.flatMap Piece.text ++ ')' :: rest)) := by
        simp [hr]
      have hclass := readItem_segmentClass hw hrs hc ⟨items.toArray, start⟩
      have hplusAt : ({ r with pos := r.pos + 13 } : Reader).rest =
          '+' :: (xs.flatMap Piece.text ++ ')' :: rest) := by
        simp [hrs, segmentClassText]
      have hplus := readItem_plus (r := { r with pos := r.pos + 13 }) hw hplusAt
        (head_after_pieces hxs rest) ⟨items.toArray, start⟩ (segmentClassAst r.pos)
        (by simp [segmentClassAst]) (by simp [segmentClassAst])
      rw [show k + Piece.roundsAll (Piece.segment :: xs) = (k + Piece.roundsAll xs) + 1 + 1 by
        simp [Piece.roundsAll, Piece.rounds]; omega, rounds_run_yield _ hclass,
        rounds_run_yield _ hplus]
      have hr' : ({ r with pos := r.pos + 14 } : Reader).rest =
          xs.flatMap Piece.text ++ ')' :: rest := by
        simp [hrs, segmentClassText]
      rw [Seq.push_toArray, ih hxs hr' hw hc]
      -- the same trees, and the same position written two ways
      congr 2
      · simp [Piece.asts, Piece.ast, segmentClassAst, Ast.span, segmentClassText]
      · simp [segmentClassText]
        omega

/-- The tree of the anchored pattern `^(?:…)$` of pieces. -/
def anchoredAst (ps : List Piece) : Ast :=
  let n := (ps.flatMap Piece.text).length
  .concat [.assertion .startLine ⟨0, 1⟩,
    .group (.nonCapturing []) (Ast.ofConcat (Piece.asts 4 ps) ⟨4, n + 4⟩) ⟨1, n + 5⟩,
    .assertion .endLine ⟨n + 5, n + 6⟩] ⟨0, n + 6⟩

theorem Piece.tooDeep_ast (x : Piece) (p : Nat) {d : Nat} (hd : d + 4 ≤ nestLimit) :
    (x.ast p).tooDeep d = none := by
  cases x with
  | char c => rfl
  | segment =>
    -- the repetition, its class and the class's union lie three levels deep
    have h1 : ¬ d + 1 > nestLimit := by omega
    have h2 : ¬ d + 1 + 1 > nestLimit := by omega
    have h3 : ¬ d + 1 + 1 + 1 > nestLimit := by omega
    simp [Piece.ast, segmentClassAst, Ast.tooDeep, ClassTree.tooDeep, ClassTree.tooDeepAll, h1, h2,
      h3]

theorem Piece.tooDeepAll_asts (ps : List Piece) (p : Nat) {d : Nat} (hd : d + 4 ≤ nestLimit) :
    Ast.tooDeepAll d (Piece.asts p ps) = none := by
  induction ps generalizing p with
  | nil => rfl
  | cons x xs ih => simp [Piece.asts, Ast.tooDeepAll, x.tooDeep_ast p hd, ih]

theorem Piece.tooDeep_ofConcat (ps : List Piece) (p : Nat) (sp : Span) :
    (Ast.ofConcat (Piece.asts p ps) sp).tooDeep 2 = none := by
  match ps with
  | [] => rfl
  | [x] => exact x.tooDeep_ast p (by decide)
  | x :: y :: zs =>
    simp only [Piece.asts, Ast.ofConcat, Ast.tooDeep]
    simp [nestLimit, Ast.tooDeepAll, x.tooDeep_ast _ (d := 3) (by decide),
      y.tooDeep_ast _ (d := 3) (by decide), Piece.tooDeepAll_asts zs _ (d := 3) (by decide)]

/-- The anchored pattern of plain pieces reads to `anchoredAst`. The reader takes one round for
`^`, one for `(?:`, the rounds of the pieces, one each for `)` and `$`, and stops at the end. -/
theorem readPattern_anchored (ps : List Piece) (hps : ∀ x ∈ ps, x.Plain) {r : Reader}
    (hr : r.rest = '^' :: '(' :: '?' :: ':' :: (ps.flatMap Piece.text ++ [')', '$']))
    (hpos : r.pos = 0) (hw : r.ignoreWhitespace = false) (hc : r.classes = [])
    (hg : r.groups = []) :
    ∃ r', readPattern.run r = pure (anchoredAst ps, r') := by
  have hsize : r.chars.size = (ps.flatMap Piece.text).length + 6 := by
    have hlen := r.rest_length
    rw [hr, hpos] at hlen
    simp only [List.length_cons, List.length_append, List.length_nil, Nat.sub_zero] at hlen
    omega
  have hR := Piece.roundsAll_le_length ps
  obtain ⟨F, hF⟩ : ∃ F, (ps.flatMap Piece.text).length + 6 + 1 =
      F + 1 + 1 + 1 + Piece.roundsAll ps + 1 + 1 :=
    ⟨(ps.flatMap Piece.text).length + 2 - Piece.roundsAll ps, by omega⟩
  unfold readPattern
  simp only [StateT.run_bind, inputSize_run, pure_bind, forIn_eq_rounds, hsize, hF]
  rw [rounds_run_yield _ (readItem_startLine hw (by simp [hr]) _),
    rounds_run_yield _ (readItem_openGroup ?w₁ ?r₁ _),
    rounds_readItem_pieces ps hps ['$'] ?r₂ ?w₂ ?c₂,
    rounds_run_yield _ (readItem_closeGroup ?w₃ ?r₃ rfl _),
    rounds_run_yield _ (readItem_endLine ?w₄ ?r₄ _),
    rounds_run_done _ (readItem_end ?w₅ ?r₅ _)]
  · constructor
    simp [finishGroups, Seq.toAst, Seq.push, hpos, hg, Ast.ofConcat_cons_cons, Ast.tooDeep,
      Ast.tooDeepAll, nestLimit, Piece.tooDeep_ofConcat, anchoredAst]
    simp only [Nat.add_comm 4, Nat.add_assoc]
    rfl
  all_goals simp only [Reader.rest_mk, Nat.add_assoc, Reader.drop_pos_add, hr, hw, hc, hg]
  all_goals simp only [← List.drop_drop, List.drop_succ_cons, List.drop_zero, List.drop_left]
  all_goals rfl

theorem parse_anchoredSource (ps : List Piece) (hps : ∀ x ∈ ps, x.Plain) :
    parse (anchoredSource (String.ofList (ps.flatMap Piece.text))) = .ok (anchoredAst ps) := by
  obtain ⟨r', hrun⟩ := readPattern_anchored ps hps
    (r := ⟨(anchoredSource (String.ofList (ps.flatMap Piece.text))).toList.toArray, 0, false, 0,
      [], [], []⟩)
    (by simp [Reader.rest, anchoredSource]) rfl rfl rfl rfl
  simp only [parse, hrun]
  rfl

/-! ## What an anchored pattern of pieces means -/

/-- The set of the segment class: `-`, the digits, the upper-case letters, `_` and the
lower-case letters. -/
def segmentSet : RangeSet :=
  ⟨[(0x2D, 0x2D), (0x30, 0x39), (0x41, 0x5A), (0x5F, 0x5F), (0x61, 0x7A)]⟩

def Piece.hir : Piece → Hir
  | .char c => .literal [c]
  | .segment => .repetition 1 none true (.cls segmentSet)

/-- What the anchored pattern of pieces means: the pieces in sequence, from the start to the
end of the text. -/
def anchoredHir (ps : List Piece) : Hir :=
  Hir.mkConcat [.look .start, Hir.mkConcat (ps.map Piece.hir), .look .finish]

theorem Piece.translate_ast (x : Piece) (p : Nat) :
    ({} : Flags).translate (x.ast p) = .ok (x.hir, {}) := by
  cases x with
  | char c => rfl
  | segment =>
    have hset : (RangeSet.mk [(97, 122)]).union ((RangeSet.mk [(65, 90)]).union
        ((RangeSet.mk [(48, 57)]).union ((RangeSet.single 45).union
          ((RangeSet.single 95).union RangeSet.empty)))) = segmentSet := by
      simp [RangeSet.union, RangeSet.normalize, RangeSet.single, RangeSet.empty, mergeSorted,
        segmentSet, List.mergeSort]
    simp [Piece.ast, segmentClassAst, Flags.translate, Flags.classTree, Flags.classTreeUnion,
      Flags.foldNegate, hset]
    simp [Hir.mkClass, segmentSet, Hir.mkRepetition, Hir.maxLength, utf8Length, Piece.hir]
    rfl

theorem Piece.translateAll_asts (ps : List Piece) (p : Nat) :
    ({} : Flags).translateAll (Piece.asts p ps) = .ok (ps.map Piece.hir, {}) := by
  induction ps generalizing p with
  | nil => rfl
  | cons x xs ih =>
    simp [Piece.asts, Flags.translateAll, x.translate_ast, ih, bind, Except.bind, pure,
      Except.pure]

theorem Piece.mkConcat_single (x : Piece) : Hir.mkConcat [x.hir] = x.hir := by
  cases x <;> rfl

theorem Piece.translate_ofConcat (ps : List Piece) (p : Nat) (sp : Span) :
    ({} : Flags).translate (Ast.ofConcat (Piece.asts p ps) sp) =
      .ok (Hir.mkConcat (ps.map Piece.hir), {}) := by
  match ps with
  | [] => rfl
  | [x] =>
    simp only [Piece.asts, Ast.ofConcat, x.translate_ast, List.map_cons, List.map_nil,
      x.mkConcat_single]
  | x :: y :: zs =>
    simp only [Piece.asts, Ast.ofConcat, Flags.translate]
    rw [← Piece.asts, ← Piece.asts, Piece.translateAll_asts]
    rfl

theorem translate_anchoredAst (ps : List Piece) (text : String) :
    Pattern.translate text (anchoredAst ps) = .ok (anchoredHir ps) := by
  simp only [Pattern.translate, anchoredAst, Flags.translate, Flags.translateAll]
  simp only [Flags.look, Bool.false_eq_true, if_false, Flags.apply, List.foldl_nil,
    bind_pure_comp, map_pure, Functor.map_map, pure_bind, Piece.translate_ofConcat, anchoredHir]
  simp only [Functor.map, Except.map]

/-- The anchored pattern of plain pieces compiles to `anchoredHir` unless its automaton would be
too large. -/
theorem compileAnchored_pieces (ps : List Piece) (hps : ∀ x ∈ ps, x.Plain) :
    compileAnchored (String.ofList (ps.flatMap Piece.text)) =
      if (anchoredHir ps).tooLarge then
        .error ⟨String.ofList (ps.flatMap Piece.text), .tooLarge sizeLimit⟩
      else .ok ⟨anchoredSource (String.ofList (ps.flatMap Piece.text)), anchoredHir ps⟩ := by
  unfold compileAnchored Regex.compile
  simp only [parse_anchoredSource ps hps, translate_anchoredAst, bind, Except.bind]
  cases (anchoredHir ps).tooLarge <;> rfl

end HttpTelemetry.Route
