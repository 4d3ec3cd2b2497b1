import HttpTelemetry.Route.Template
/-!
# Normalizing a template twice changes nothing

A wildcard segment is `/{`, a name of ASCII letters, digits and `_`, then `}`. Normalizing a
text replaces the wildcard segments, found from left to right, by `/[a-zA-Z0-9-_]+`. A segment
holds `/` only at its start, so two segments never overlap: the text is cut into literal text
and segments, the segments are all the places where one begins (`exists_cut`), and normalizing
replaces each of them and keeps the literal text.

No replacement forms a new segment with the text around it. The replacement begins with `/`
and `[` and holds no other `/`, so none begins inside it; and after a `/{` that is kept, the
normalized rest begins as the original rest did, so it closes no name that was not closed
before (`afterName_normalizeChars`). Hence the normalized text holds no segment, and
normalizing it again changes nothing.
-/

namespace HttpTelemetry.Route

/-! ## Wildcard segments in a text -/

/-- Whether a text begins with a wildcard segment. -/
def startsWildcard : List Char → Bool
  | '/' :: '{' :: rest => (afterName rest).isSome
  | _ => false

/-- The number of places in a text where a wildcard segment begins. -/
def wildcardCount : List Char → Nat
  | [] => 0
  | c :: rest => (if startsWildcard (c :: rest) then 1 else 0) + wildcardCount rest

/-- A wildcard segment: `/{`, a non-empty name of ASCII letters, digits and `_`, then `}`. -/
def IsWildcard (w : List Char) : Prop :=
  ∃ name, name ≠ [] ∧ (∀ c ∈ name, isNameChar c = true) ∧ w = '/' :: '{' :: (name ++ ['}'])

/-- Whether a wildcard segment occurs in a text. -/
def HasWildcard (cs : List Char) : Prop :=
  ∃ pre w post, IsWildcard w ∧ cs = pre ++ w ++ post

/-! ## Reading a name -/

/-- Every text is its leading name characters followed by text that does not begin with one. -/
theorem exists_nameSplit (cs : List Char) : ∃ name tail, cs = name ++ tail ∧
    (∀ c ∈ name, isNameChar c = true) ∧ ∀ c ∈ tail.head?, isNameChar c = false := by
  induction cs with
  | nil => exact ⟨[], [], rfl, by simp, by simp⟩
  | cons c rest ih =>
    cases hc : isNameChar c with
    | true =>
      obtain ⟨name, tail, rfl, hname, htail⟩ := ih
      refine ⟨c :: name, tail, rfl, ?_, htail⟩
      intro d hd
      rcases List.mem_cons.mp hd with rfl | hd
      · exact hc
      · exact hname d hd
    | false => exact ⟨[], c :: rest, rfl, by simp, by simpa using hc⟩

section NameSplit

variable {name tail : List Char}

/-- Name characters are no slashes, so normalizing and counting pass over a name. -/
theorem slash_free_of_nameChars (hname : ∀ c ∈ name, isNameChar c = true) :
    ∀ c ∈ name, c ≠ '/' := by
  rintro c hc rfl
  have h := hname _ hc
  contradiction

theorem takeWhile_nameSplit (hname : ∀ c ∈ name, isNameChar c = true)
    (htail : ∀ c ∈ tail.head?, isNameChar c = false) :
    (name ++ tail).takeWhile isNameChar = name := by
  rw [List.takeWhile_append_of_pos hname]
  cases tail with
  | nil => simp
  | cons c r => rw [List.takeWhile_cons_of_neg (by simp [htail c rfl]), List.append_nil]

theorem dropWhile_nameSplit (hname : ∀ c ∈ name, isNameChar c = true)
    (htail : ∀ c ∈ tail.head?, isNameChar c = false) :
    (name ++ tail).dropWhile isNameChar = tail := by
  rw [List.dropWhile_append_of_pos hname]
  cases tail with
  | nil => rfl
  | cons c r => exact List.dropWhile_cons_of_neg (by simp [htail c rfl])

theorem afterName_append_close (rest : List Char) (hname : ∀ c ∈ name, isNameChar c = true) :
    afterName (name ++ '}' :: rest) = if name = [] then none else some rest := by
  have hclose : ∀ c ∈ ('}' :: rest).head?, isNameChar c = false := by
    intro c hc
    cases hc
    decide
  unfold afterName
  rw [dropWhile_nameSplit hname hclose, takeWhile_nameSplit hname hclose]
  simp [List.isEmpty_iff]

theorem afterName_append_of_not_close (hname : ∀ c ∈ name, isNameChar c = true)
    (htail : ∀ c ∈ tail.head?, isNameChar c = false) (hclose : ∀ r, tail ≠ '}' :: r) :
    afterName (name ++ tail) = none := by
  unfold afterName
  rw [dropWhile_nameSplit hname htail]
  split
  · rename_i r
    exact absurd rfl (hclose r)
  · rfl

end NameSplit

/-- A name is read up to its closing brace. -/
theorem afterName_eq_some_iff {cs after : List Char} :
    afterName cs = some after ↔
      ∃ name, name ≠ [] ∧ (∀ c ∈ name, isNameChar c = true) ∧ cs = name ++ '}' :: after := by
  constructor
  · intro h
    obtain ⟨name, tail, rfl, hname, htail⟩ := exists_nameSplit cs
    by_cases hclose : ∃ r, tail = '}' :: r
    · obtain ⟨r, rfl⟩ := hclose
      rw [afterName_append_close r hname] at h
      by_cases hn : name = []
      · rw [if_pos hn] at h
        cases h
      · rw [if_neg hn] at h
        cases h
        exact ⟨name, hn, hname, rfl⟩
    · rw [afterName_append_of_not_close hname htail (fun r h => hclose ⟨r, h⟩)] at h
      cases h
  · rintro ⟨name, hne, hname, rfl⟩
    rw [afterName_append_close after hname, if_neg hne]

/-! ## What normalizing keeps -/

theorem normalizeChars_cons_of_ne {c : Char} (rest : List Char) (hc : c ≠ '/') :
    normalizeChars (c :: rest) = c :: normalizeChars rest :=
  normalizeChars.eq_3 c rest fun _ h _ => hc h

/-- Normalizing keeps the first character. -/
theorem normalizeChars_head? (cs : List Char) : (normalizeChars cs).head? = cs.head? := by
  fun_induction normalizeChars cs <;> rfl

/-- Text without `/` begins no replacement and passes through unchanged. -/
theorem normalizeChars_append_of_slash_free {xs : List Char} (ys : List Char)
    (hxs : ∀ c ∈ xs, c ≠ '/') : normalizeChars (xs ++ ys) = xs ++ normalizeChars ys := by
  induction xs with
  | nil => rfl
  | cons x xs ih =>
    obtain ⟨hx, hrest⟩ := List.forall_mem_cons.mp hxs
    rw [List.cons_append, normalizeChars_cons_of_ne _ hx, ih hrest, List.cons_append]

/-- After a `/{`, the normalized rest closes a name exactly where the rest did. -/
theorem afterName_normalizeChars (cs : List Char) :
    afterName (normalizeChars cs) = (afterName cs).map normalizeChars := by
  obtain ⟨name, tail, rfl, hname, htail⟩ := exists_nameSplit cs
  rw [normalizeChars_append_of_slash_free tail (slash_free_of_nameChars hname)]
  -- only the first character after the name decides, and normalizing keeps it
  by_cases hclose : ∃ r, tail = '}' :: r
  · obtain ⟨r, rfl⟩ := hclose
    rw [normalizeChars_cons_of_ne r (by decide), afterName_append_close _ hname,
      afterName_append_close _ hname]
    by_cases hn : name = [] <;> simp [hn]
  · have hhead := normalizeChars_head? tail
    have hclose' : ∀ r, normalizeChars tail ≠ '}' :: r := by
      intro r h
      rw [h] at hhead
      cases tail with
      | nil => cases hhead
      | cons d ds =>
        cases hhead
        exact hclose ⟨ds, rfl⟩
    have htail' : ∀ c ∈ (normalizeChars tail).head?, isNameChar c = false := by
      rw [hhead]
      exact htail
    rw [afterName_append_of_not_close hname htail' hclose',
      afterName_append_of_not_close hname htail (fun r h => hclose ⟨r, h⟩)]
    rfl

/-! ## Counting wildcard segments -/

theorem startsWildcard_cons_of_ne {c : Char} (cs : List Char) (hc : c ≠ '/') :
    startsWildcard (c :: cs) = false := by
  unfold startsWildcard
  split
  · rename_i h
    exact absurd (List.cons.inj h).1 hc
  · rfl

theorem wildcardCount_cons_of_ne {c : Char} (cs : List Char) (hc : c ≠ '/') :
    wildcardCount (c :: cs) = wildcardCount cs := by
  rw [wildcardCount.eq_2, startsWildcard_cons_of_ne cs hc]
  simp

theorem wildcardCount_append_of_slash_free {xs : List Char} (ys : List Char)
    (hxs : ∀ c ∈ xs, c ≠ '/') : wildcardCount (xs ++ ys) = wildcardCount ys := by
  induction xs with
  | nil => rfl
  | cons x xs ih =>
    obtain ⟨hx, hrest⟩ := List.forall_mem_cons.mp hxs
    rw [List.cons_append, wildcardCount_cons_of_ne _ hx, ih hrest]

theorem segmentPattern_toList :
    segmentPattern.toList = ['[', 'a', '-', 'z', 'A', '-', 'Z', '0', '-', '9', '-', '_', ']', '+'] := by
  rfl

theorem segmentPattern_slash_free : ∀ c ∈ segmentPattern.toList, c ≠ '/' := by
  rintro c hc rfl
  simp [segmentPattern_toList] at hc

/-- The normalized text holds no wildcard segment. -/
theorem wildcardCount_normalizeChars (cs : List Char) : wildcardCount (normalizeChars cs) = 0 := by
  fun_induction normalizeChars cs with
  | case1 => rfl
  | case2 rest after h _ ih =>
    -- the replacement begins with `/[` and holds no other `/`
    rw [List.cons_append, wildcardCount.eq_2,
      wildcardCount_append_of_slash_free _ segmentPattern_slash_free, ih]
    rfl
  | case3 rest h ih =>
    -- a kept `/{` still closes no name
    rw [wildcardCount.eq_2, ih, normalizeChars_cons_of_ne rest (by decide)]
    simp [startsWildcard, afterName_normalizeChars, h]
  | case4 c rest h ih =>
    rw [wildcardCount.eq_2, ih]
    by_cases hc : c = '/'
    · subst hc
      -- a `/` not followed by `{`, and normalizing keeps what follows it
      have hhead : (normalizeChars rest).head? ≠ some '{' := by
        rw [normalizeChars_head?]
        intro h'
        cases rest with
        | nil => cases h'
        | cons d r =>
          cases h'
          exact h r rfl rfl
      match normalizeChars rest, hhead with
      | [], _ => rfl
      | d :: ds, hd =>
        have hd' : d ≠ '{' := fun e => hd (by simp [e])
        simp [startsWildcard, hd']
    · simp [startsWildcard_cons_of_ne _ hc]

/-! ## The cut of a text at its wildcard segments -/

/-- A wildcard segment `/{name}` found in a text, with the literal text after it up to the next
segment. -/
structure Cut.Segment where
  name : List Char
  literal : List Char
  name_ne_nil : name ≠ []
  name_chars : ∀ c ∈ name, isNameChar c = true

/-- A text cut at its wildcard segments: literal text, then segments. -/
structure Cut where
  lead : List Char
  segments : List Cut.Segment

def Cut.Segment.text (σ : Cut.Segment) : List Char :=
  '/' :: '{' :: (σ.name ++ '}' :: σ.literal)

/-- The segment replaced by `/[a-zA-Z0-9-_]+`, its literal text kept. -/
def Cut.Segment.normalized (σ : Cut.Segment) : List Char :=
  '/' :: (segmentPattern.toList ++ σ.literal)

def Cut.text (κ : Cut) : List Char := κ.lead ++ κ.segments.flatMap Cut.Segment.text

def Cut.normalized (κ : Cut) : List Char := κ.lead ++ κ.segments.flatMap Cut.Segment.normalized

/-- Normalizing replaces the wildcard segments and keeps the text between them; and these are
all the segments of the text, since it has no more places where one begins. -/
theorem exists_cut (cs : List Char) :
    ∃ κ : Cut, κ.text = cs ∧ normalizeChars cs = κ.normalized ∧
      wildcardCount cs = κ.segments.length := by
  fun_induction normalizeChars cs with
  | case1 => exact ⟨⟨[], []⟩, rfl, rfl, rfl⟩
  | case2 rest after h _ ih =>
    obtain ⟨κ, htext, hnorm, hcount⟩ := ih
    obtain ⟨name, hne, hname, rfl⟩ := afterName_eq_some_iff.mp h
    have hslash : ∀ c ∈ name ++ ['}'], c ≠ '/' := by
      intro c hc
      rcases List.mem_append.mp hc with hc | hc
      · exact slash_free_of_nameChars hname c hc
      · rw [List.mem_singleton.mp hc]
        decide
    let σ : Cut.Segment := ⟨name, κ.lead, hne, hname⟩
    refine ⟨⟨[], σ :: κ.segments⟩, ?_, ?_, ?_⟩
    · simp [Cut.text, Cut.Segment.text, σ, ← htext]
    · rw [hnorm]
      simp [Cut.normalized, Cut.Segment.normalized, σ]
    · have hstarts : startsWildcard ('/' :: '{' :: (name ++ '}' :: after)) = true := by
        simp [startsWildcard, h]
      rw [wildcardCount.eq_2, hstarts, wildcardCount_cons_of_ne _ (by decide),
        show name ++ '}' :: after = (name ++ ['}']) ++ after by simp,
        wildcardCount_append_of_slash_free _ hslash, hcount]
      simp [Nat.add_comm]
  | case3 rest h ih =>
    obtain ⟨κ, htext, hnorm, hcount⟩ := ih
    refine ⟨⟨'/' :: κ.lead, κ.segments⟩, ?_, ?_, ?_⟩
    · simp [Cut.text, ← htext]
    · rw [hnorm]
      rfl
    · rw [wildcardCount.eq_2, hcount]
      simp [startsWildcard, h]
  | case4 c rest h ih =>
    obtain ⟨κ, htext, hnorm, hcount⟩ := ih
    refine ⟨⟨c :: κ.lead, κ.segments⟩, ?_, ?_, ?_⟩
    · simp [Cut.text, ← htext]
    · rw [hnorm]
      rfl
    · have hstarts : startsWildcard (c :: rest) = false := by
        unfold startsWildcard
        split
        · rename_i r heq
          obtain ⟨hc, hr⟩ := List.cons.inj heq
          exact absurd hr (h _ hc)
        · rfl
      rw [wildcardCount.eq_2, hstarts, hcount]
      simp

theorem startsWildcard_eq_true {cs : List Char} (h : startsWildcard cs = true) :
    ∃ name after, name ≠ [] ∧ (∀ c ∈ name, isNameChar c = true) ∧
      cs = '/' :: '{' :: (name ++ '}' :: after) := by
  unfold startsWildcard at h
  split at h
  · rename_i rest
    obtain ⟨after, hafter⟩ := Option.isSome_iff_exists.mp h
    obtain ⟨name, hne, hname, rfl⟩ := afterName_eq_some_iff.mp hafter
    exact ⟨name, after, hne, hname, rfl⟩
  · cases h

theorem wildcardCount_le_append (xs ys : List Char) :
    wildcardCount ys ≤ wildcardCount (xs ++ ys) := by
  induction xs with
  | nil => exact Nat.le_refl _
  | cons x xs ih =>
    rw [List.cons_append, wildcardCount.eq_2]
    omega

/-- A text has a wildcard segment exactly when some place in it begins one. -/
theorem hasWildcard_iff (cs : List Char) : HasWildcard cs ↔ 0 < wildcardCount cs := by
  constructor
  · rintro ⟨pre, w, post, ⟨name, hne, hname, rfl⟩, rfl⟩
    have hstarts : startsWildcard ('/' :: '{' :: (name ++ '}' :: post)) = true := by
      simp [startsWildcard, afterName_append_close post hname, hne]
    have hhere : 0 < wildcardCount ('/' :: '{' :: (name ++ '}' :: post)) := by
      rw [wildcardCount.eq_2, hstarts, if_pos rfl]
      omega
    have hsplit : pre ++ '/' :: '{' :: (name ++ ['}']) ++ post =
        pre ++ '/' :: '{' :: (name ++ '}' :: post) := by
      simp
    rw [hsplit]
    exact Nat.lt_of_lt_of_le hhere (wildcardCount_le_append pre _)
  · intro h
    induction cs with
    | nil => cases h
    | cons c rest ih =>
      rw [wildcardCount.eq_2] at h
      by_cases hs : startsWildcard (c :: rest) = true
      · obtain ⟨name, after, hne, hname, heq⟩ := startsWildcard_eq_true hs
        exact ⟨[], '/' :: '{' :: (name ++ ['}']), after, ⟨name, hne, hname, rfl⟩, by simp [heq]⟩
      · rw [if_neg hs] at h
        obtain ⟨pre, w, post, hw, rfl⟩ := ih (by omega)
        exact ⟨c :: pre, w, post, hw, rfl⟩

theorem normalizeChars_eq_self_iff (cs : List Char) :
    normalizeChars cs = cs ↔ wildcardCount cs = 0 := by
  constructor
  · intro h
    rw [← h]
    exact wildcardCount_normalizeChars cs
  · intro h
    obtain ⟨κ, htext, hnorm, hcount⟩ := exists_cut cs
    have hnil : κ.segments = [] := List.eq_nil_of_length_eq_zero (hcount ▸ h)
    rw [hnorm, ← htext, Cut.normalized, Cut.text, hnil]
    rfl

/-! ## Templates and catalogs -/

theorem normalize_toList (p : String) : (normalize p).toList = normalizeChars p.toList :=
  String.toList_ofList

theorem normalize_normalize (p : String) : normalize (normalize p) = normalize p := by
  rw [normalize, normalize_toList, (normalizeChars_eq_self_iff _).mpr
    (wildcardCount_normalizeChars _)]
  rfl

theorem normalize_eq_self_iff (p : String) : normalize p = p ↔ ¬ HasWildcard p.toList := by
  rw [← String.toList_inj, normalize_toList, normalizeChars_eq_self_iff, hasWildcard_iff]
  omega

theorem Catalog.normalize_normalize (c : Catalog) : c.normalize.normalize = c.normalize := by
  simp [Catalog.normalize, Route.normalize_normalize]

/-- Normalizing replaces every wildcard segment of a text by `/[a-zA-Z0-9-_]+` and keeps the
text between the segments; the result holds no wildcard segment, so normalizing again changes
nothing, and a text is left as it is exactly when it holds none. Normalizing a catalog
normalizes each endpoint path and keeps the order of the endpoints, their verbs, the host and
the status codes. -/
theorem normalize_idempotent (p : String) :
    ¬ HasWildcard (normalize p).toList ∧
    (∃ κ : Cut, κ.text = p.toList ∧ (normalize p).toList = κ.normalized ∧
      wildcardCount p.toList = κ.segments.length) ∧
    normalize (normalize p) = normalize p ∧
    (normalize p = p ↔ ¬ HasWildcard p.toList) ∧
    ∀ c : Catalog, c.normalize.normalize = c.normalize ∧ c.normalize.host = c.host ∧
      c.normalize.statusCodes = c.statusCodes ∧
      c.normalize.endpoints.map Endpoint.verb = c.endpoints.map Endpoint.verb ∧
      c.normalize.endpoints.map Endpoint.path = c.endpoints.map (normalize ∘ Endpoint.path) := by
  refine ⟨?_, ?_, normalize_normalize p, normalize_eq_self_iff p, fun c => ?_⟩
  · rw [hasWildcard_iff, normalize_toList, wildcardCount_normalizeChars]
    exact Nat.lt_irrefl 0
  · rw [normalize_toList]
    exact exists_cut p.toList
  · refine ⟨c.normalize_normalize, rfl, rfl, ?_, ?_⟩ <;> simp [Catalog.normalize, Function.comp_def]

/-- `/{a-b}` and `/{}` are no wildcard segments; `/{id}` is one however the text goes on. -/
example : wildcardCount "/users/\x7bid\x7d/\x7ba-b\x7d/\x7b\x7dx/\x7bid\x7d\x7d".toList = 2 := by
  decide

end HttpTelemetry.Route
