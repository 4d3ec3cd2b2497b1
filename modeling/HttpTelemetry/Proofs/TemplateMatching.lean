import Mathlib
import HttpTelemetry.Proofs.PatternReading
import HttpTelemetry.Proofs.AnchoredMatching
/-!
# What a route matches

A route template is literal text with wildcard segments `/{name}` in it. When no literal text
holds a pattern metacharacter, the normalized pattern of the template, anchored at both ends,
compiles unless it is too large, and it matches exactly the paths that fill every wildcard
segment with a non-empty word of ASCII letters, digits, `-` and `_`. The route of the template
accepts these paths and the template itself.

The proof goes through the pieces of the normalized pattern: normalizing a template gives the
text of its pieces; that text reads and translates to `anchoredHir` (`compileAnchored_pieces`);
and the anchored sequence matches what the pieces spell (`matches_mkConcat_anchored`).
-/

namespace HttpTelemetry.Route

open HttpTelemetry.Pattern HttpTelemetry.Unicode

/-! ## Templates and their instances -/

/-- A wildcard segment `/{name}` of a template, with the literal text that follows it. -/
structure Template.Segment where
  name : List Char
  literal : List Char
  name_ne_nil : name ≠ []
  name_chars : ∀ c ∈ name, (c.isAlphanum || c == '_') = true
  literal_plain : ∀ c ∈ literal, c ∉ metaChars

/-- A route template: literal text, then wildcard segments each followed by literal text, where
no literal text holds a pattern metacharacter. -/
structure Template where
  lead : List Char
  lead_plain : ∀ c ∈ lead, c ∉ metaChars
  segments : List Template.Segment

/-- The characters of a segment: `/{name}`, then the literal text after it. -/
def Template.Segment.chars (σ : Template.Segment) : List Char :=
  '/' :: '{' :: (σ.name ++ '}' :: σ.literal)

def Template.text (τ : Template) : String :=
  String.ofList (τ.lead ++ τ.segments.flatMap Template.Segment.chars)

/-- The characters a wildcard segment stands for: ASCII letters and digits, `-` and `_`. -/
def isSegmentChar (c : Char) : Bool := c.isAlphanum || c == '-' || c == '_'

/-- The path the segments give when they are filled with the words `ws`, in order. -/
def Template.fillSegments : List Template.Segment → List (List Char) → List Char
  | σ :: segments, w :: ws => '/' :: (w ++ σ.literal ++ Template.fillSegments segments ws)
  | _, _ => []

/-- The instances of a template: its segments filled with non-empty words of segment
characters. -/
def Template.Instance (τ : Template) (p : String) : Prop :=
  ∃ ws : List (List Char), ws.length = τ.segments.length ∧
    (∀ w ∈ ws, w ≠ [] ∧ ∀ c ∈ w, isSegmentChar c = true) ∧
    p.toList = τ.lead ++ Template.fillSegments τ.segments ws

/-! ## Character classes by code point -/

theorem isAlphanum_iff_toNat (c : Char) :
    c.isAlphanum = true ↔
      (65 ≤ c.toNat ∧ c.toNat ≤ 90 ∨ 97 ≤ c.toNat ∧ c.toNat ≤ 122) ∨
        48 ≤ c.toNat ∧ c.toNat ≤ 57 := by
  have hval : c.val.toNat = c.toNat := rfl
  simp only [Char.isAlphanum, Char.isAlpha, Char.isUpper, Char.isLower, Char.isDigit,
    Bool.or_eq_true, Bool.and_eq_true, decide_eq_true_eq, UInt32.le_iff_toNat_le, hval,
    ge_iff_le, Char.reduceVal, UInt32.reduceToNat]

theorem beq_iff_toNat (c d : Char) : (c == d) = true ↔ c.toNat = d.toNat := by
  rw [beq_iff_eq]
  exact ⟨congrArg Char.toNat, Char.toNat_inj.mp⟩

/-- Wildcard names are read with `isNameChar`: exactly ASCII letters, digits and `_`. -/
theorem isNameChar_eq (c : Char) : isNameChar c = (c.isAlphanum || c == '_') := by
  rw [Bool.eq_iff_iff]
  simp only [isNameChar, Bool.or_eq_true, Bool.and_eq_true, isAlphanum_iff_toNat, beq_iff_toNat,
    decide_eq_true_eq, Char.reduceToNat]
  omega

theorem segmentSet_contains (c : Char) : segmentSet.contains c.toNat = isSegmentChar c := by
  rw [Bool.eq_iff_iff]
  simp only [RangeSet.contains, segmentSet, isSegmentChar, Bool.or_eq_true,
    isAlphanum_iff_toNat, beq_iff_toNat, List.any_cons, List.any_nil, Bool.or_false,
    Bool.and_eq_true, decide_eq_true_eq, Char.reduceToNat]
  omega

/-! ## The normalized pattern -/

def Template.Segment.pieces (σ : Template.Segment) : List Piece :=
  .char '/' :: .segment :: σ.literal.map .char

/-- The pieces of the normalized pattern of a template. -/
def Template.pieces (τ : Template) : List Piece :=
  τ.lead.map .char ++ τ.segments.flatMap Template.Segment.pieces

theorem Piece.plain_chars {cs : List Char} (hcs : ∀ c ∈ cs, c ∉ metaChars) :
    ∀ x ∈ cs.map Piece.char, x.Plain := by
  simpa [Piece.Plain] using hcs

theorem Template.pieces_plain (τ : Template) : ∀ x ∈ τ.pieces, x.Plain := by
  intro x hx
  simp only [Template.pieces, List.mem_append, List.mem_flatMap] at hx
  rcases hx with hx | ⟨σ, -, hx⟩
  · exact Piece.plain_chars τ.lead_plain x hx
  · simp only [Template.Segment.pieces, List.mem_cons] at hx
    rcases hx with rfl | rfl | hx
    · show '/' ∉ metaChars
      decide
    · trivial
    · exact Piece.plain_chars σ.literal_plain x hx

theorem flatMap_text_chars (cs : List Char) : (cs.map Piece.char).flatMap Piece.text = cs := by
  induction cs with
  | nil => rfl
  | cons c cs ih => simp [ih]

/-- Literal text passes through normalization unchanged when what follows it does not begin with
`{`. -/
theorem normalizeChars_literal {cs : List Char} (hcs : ∀ c ∈ cs, c ∉ metaChars)
    {tail : List Char} (htail : tail.head? ≠ some '{') :
    normalizeChars (cs ++ tail) = cs ++ normalizeChars tail := by
  induction cs with
  | nil => rfl
  | cons c cs ih =>
    obtain ⟨-, hrest⟩ := List.forall_mem_cons.mp hcs
    -- the character after `c` is literal text or the head of the tail, and neither is `{`
    have hnext : ∀ rest, c = '/' → cs ++ tail = '{' :: rest → False := by
      intro rest _ h
      cases cs with
      | nil =>
        rw [List.nil_append] at h
        exact htail (by rw [h]; rfl)
      | cons d ds =>
        simp only [List.cons_append, List.cons.injEq] at h
        exact (List.forall_mem_cons.mp hrest).1 (by simp [metaChars, h.1])
    rw [List.cons_append, normalizeChars.eq_3 c _ hnext, ih hrest, List.cons_append]

theorem afterName_segment (σ : Template.Segment) (tail : List Char) :
    afterName (σ.name ++ '}' :: tail) = some tail := by
  have hname : ∀ c ∈ σ.name, isNameChar c = true := fun c hc => by
    rw [isNameChar_eq]
    exact σ.name_chars c hc
  have hclose : isNameChar '}' = false := by decide
  have hdrop : (σ.name ++ '}' :: tail).dropWhile isNameChar = '}' :: tail := by
    rw [List.dropWhile_append_of_pos hname, List.dropWhile_cons_of_neg (by simp [hclose])]
  have htake : (σ.name ++ '}' :: tail).takeWhile isNameChar = σ.name := by
    rw [List.takeWhile_append_of_pos hname, List.takeWhile_cons_of_neg (by simp [hclose]),
      List.append_nil]
  unfold afterName
  rw [hdrop]
  simp [htake, σ.name_ne_nil]

theorem normalizeChars_segment (σ : Template.Segment) (tail : List Char) :
    normalizeChars (σ.chars ++ tail) =
      '/' :: (segmentPattern.toList ++ normalizeChars (σ.literal ++ tail)) := by
  have hafter := afterName_segment σ (σ.literal ++ tail)
  simp only [Template.Segment.chars, List.cons_append, List.append_assoc]
  rw [normalizeChars.eq_2]
  split
  · rename_i after h
    rw [hafter] at h
    cases h
    rfl
  · rename_i h
    rw [hafter] at h
    cases h

theorem head?_flatMap_chars (segments : List Template.Segment) :
    (segments.flatMap Template.Segment.chars).head? ≠ some '{' := by
  cases segments with
  | nil => simp
  | cons σ _ => simp [Template.Segment.chars]

theorem normalizeChars_segments (segments : List Template.Segment) :
    normalizeChars (segments.flatMap Template.Segment.chars) =
      (segments.flatMap Template.Segment.pieces).flatMap Piece.text := by
  induction segments with
  | nil => rw [List.flatMap_nil, normalizeChars.eq_1, List.flatMap_nil, List.flatMap_nil]
  | cons σ segments ih =>
    rw [List.flatMap_cons, normalizeChars_segment,
      normalizeChars_literal σ.literal_plain (head?_flatMap_chars segments), ih]
    simp only [List.flatMap_cons, Template.Segment.pieces, List.flatMap_append,
      flatMap_text_chars, Piece.text_char]
    rfl

theorem Template.normalize_text (τ : Template) :
    normalize τ.text = String.ofList (τ.pieces.flatMap Piece.text) := by
  unfold normalize Template.text
  rw [String.toList_ofList, normalizeChars_literal τ.lead_plain (head?_flatMap_chars _),
    normalizeChars_segments, Template.pieces, List.flatMap_append, flatMap_text_chars]

/-- The anchored normalized pattern of a template compiles to `anchoredHir` of its pieces, unless
that is too large. -/
theorem Template.compileAnchored_normalize (τ : Template) :
    compileAnchored (normalize τ.text) =
      if (anchoredHir τ.pieces).tooLarge then
        .error ⟨normalize τ.text, .tooLarge sizeLimit⟩
      else .ok ⟨anchoredSource (normalize τ.text), anchoredHir τ.pieces⟩ := by
  rw [τ.normalize_text]
  exact compileAnchored_pieces τ.pieces τ.pieces_plain

/-! ## What the pieces spell -/

theorem Piece.hir_plain (x : Piece) : x.hir.Plain := by
  cases x with
  | char c => exact .literal c []
  | segment => exact .repetition 1 segmentSet (Nat.le_refl 1)

theorem spells_chars {cs : List Char} {k : List Hir} {w : List Char} :
    Spells ((cs.map Piece.char).map Piece.hir ++ k) w ↔ ∃ v, w = cs ++ v ∧ Spells k v := by
  induction cs generalizing w with
  | nil => simp
  | cons c cs ih =>
    simp only [List.map_cons, List.cons_append, Piece.hir, spells_literal_iff, ih]
    constructor
    · rintro ⟨v, rfl, v', rfl, hv'⟩
      exact ⟨v', rfl, hv'⟩
    · rintro ⟨v, rfl, hv⟩
      exact ⟨cs ++ v, rfl, v, rfl, hv⟩

theorem spells_segment {k : List Hir} {w : List Char} :
    Spells (Piece.segment.hir :: k) w ↔
      ∃ u v, w = u ++ v ∧ (u ≠ [] ∧ ∀ c ∈ u, isSegmentChar c = true) ∧ Spells k v := by
  simp only [Piece.hir, spells_repetition_iff, segmentSet_contains, Nat.one_le_iff_ne_zero,
    ne_eq, List.length_eq_zero_iff, and_assoc]

theorem spells_segments (segments : List Template.Segment) (q : List Char) :
    Spells ((segments.flatMap Template.Segment.pieces).map Piece.hir) q ↔
      ∃ ws : List (List Char), ws.length = segments.length ∧
        (∀ w ∈ ws, w ≠ [] ∧ ∀ c ∈ w, isSegmentChar c = true) ∧
        q = Template.fillSegments segments ws := by
  induction segments generalizing q with
  | nil =>
    simp only [List.flatMap_nil, List.map_nil, spells_nil_iff, List.length_nil,
      List.length_eq_zero_iff]
    constructor
    · rintro rfl
      exact ⟨[], rfl, by simp, rfl⟩
    · rintro ⟨ws, rfl, -, rfl⟩
      rfl
  | cons σ segments ih =>
    simp only [List.flatMap_cons, Template.Segment.pieces, List.cons_append, List.map_cons,
      List.map_append]
    rw [Piece.hir, spells_literal_iff]
    constructor
    · rintro ⟨v, rfl, hv⟩
      obtain ⟨u, v, rfl, hu, hv⟩ := spells_segment.mp hv
      obtain ⟨v', rfl, hv'⟩ := spells_chars.mp hv
      obtain ⟨ws, hlen, hws, rfl⟩ := (ih v').mp hv'
      exact ⟨u :: ws, by simp [hlen], List.forall_mem_cons.mpr ⟨hu, hws⟩,
        by simp [Template.fillSegments]⟩
    · rintro ⟨_ | ⟨u, ws⟩, hlen, hws, rfl⟩
      · simp at hlen
      · obtain ⟨hu, hws⟩ := List.forall_mem_cons.mp hws
        have hrest : Spells ((segments.flatMap Template.Segment.pieces).map Piece.hir)
            (Template.fillSegments segments ws) :=
          (ih _).mpr ⟨ws, by simpa using hlen, hws, rfl⟩
        refine ⟨u ++ (σ.literal ++ Template.fillSegments segments ws),
          by simp [Template.fillSegments], spells_segment.mpr ⟨u, _, rfl, hu, ?_⟩⟩
        exact spells_chars.mpr ⟨_, rfl, hrest⟩

theorem Template.spells_pieces (τ : Template) (p : String) :
    Spells (τ.pieces.map Piece.hir) p.toList ↔ τ.Instance p := by
  unfold Template.pieces Template.Instance
  rw [List.map_append, spells_chars]
  constructor
  · rintro ⟨v, hp, hv⟩
    obtain ⟨ws, hlen, hws, rfl⟩ := (spells_segments _ v).mp hv
    exact ⟨ws, hlen, hws, hp⟩
  · rintro ⟨ws, hlen, hws, hp⟩
    exact ⟨_, hp, (spells_segments _ _).mpr ⟨ws, hlen, hws, rfl⟩⟩

/-- The anchored pattern of a template's pieces matches exactly its instances. -/
theorem Template.matches_anchoredHir (τ : Template) (p : String) :
    (anchoredHir τ.pieces).matches p = true ↔ τ.Instance p := by
  have hplain : ∀ h ∈ τ.pieces.map Piece.hir, h.Plain := by
    simp only [List.mem_map]
    rintro _ ⟨x, -, rfl⟩
    exact x.hir_plain
  rw [anchoredHir, matches_mkConcat_anchored hplain, τ.spells_pieces]

/-! ## Routes of templates -/

/-- The normalized pattern of a template, anchored at both ends, fails to compile only when it is
too large, and otherwise matches exactly the instances of the template; the route of the template
accepts its instances and the template itself. -/
theorem Template.normalized_language (τ : Template) (verb : String) :
    (match compileAnchored (normalize τ.text) with
      | .ok regex => ∀ p, regex.isMatch p = true ↔ τ.Instance p
      | .error e => e.cause = .tooLarge sizeLimit) ∧
    (match Route.ofEndpoint ⟨τ.text, verb⟩ with
      | .ok route => ∀ p, route.accepts p = true ↔ τ.Instance p ∨ p = τ.text
      | .error e => e.cause = .tooLarge sizeLimit) := by
  dsimp only [Route.ofEndpoint]
  by_cases hlarge : (anchoredHir τ.pieces).tooLarge = true
  · rw [τ.compileAnchored_normalize, if_pos hlarge]
    exact ⟨rfl, rfl⟩
  · rw [τ.compileAnchored_normalize, if_neg hlarge]
    constructor
    · intro p
      exact τ.matches_anchoredHir p
    · intro p
      show (τ.text == p || (anchoredHir τ.pieces).matches p) = true ↔ _
      rw [Bool.or_eq_true, beq_iff_eq, τ.matches_anchoredHir, eq_comm, Or.comm]

end HttpTelemetry.Route
