/-
Identifiers agree with the codec.

The rules for segments are kept in two places. `encode` and `decode` check plain segments
and tokens; `ofSegments` and `parse` make identifiers, whose token is joined later without
another look. Section 1 says which defect of several is found, in terms of the list of
segments alone: the number of segments comes first, then the first segment that cannot be
one, and an empty segment is never said to hold a separator. Section 2 says that both
places accept the same, refuse the same, and give the same token.

What is made in either way names something: `Sound` says what its scope, its leaf and its
token can be relied on for.
-/
import Settle.Proofs.Identifier

set_option autoImplicit false

namespace Settle.Identifier

/-! ## 1. Which defect is found -/

/-- What is wrong with a segment at some place. -/
inductive Spoils (index : Nat) : String → Defect → Prop
  | empty : Spoils index "" (.emptySegment index)
  | separator {s : String} (hfull : s ≠ "") (hinside : '/' ∈ s.toList) :
    Spoils index s (.separatorInside index s)

/-- What is wrong with segments: their number, or the first of them that cannot be one. -/
inductive Faulty (segments : List String) : Defect → Prop
  | count (h : ¬ (2 ≤ segments.length ∧ segments.length ≤ 4)) :
    Faulty segments (.count segments.length)
  | segment {before after : List String} {s : String} {d : Defect}
    (hcount : 2 ≤ segments.length ∧ segments.length ≤ 4) (h : segments = before ++ s :: after)
    (hbefore : ∀ t ∈ before, LegalSegment t) (hspoils : Spoils before.length s d) :
    Faulty segments d

/-- The search for a bad segment finds the first one. The induction is on the segments that are
left, and `index` counts those that were legal. -/
theorem spoils_of_segmentDefect? {index : Nat} {segments : List String} {d : Defect}
    (h : segmentDefect? index segments = some d) :
    ∃ before s after, segments = before ++ s :: after ∧ (∀ t ∈ before, LegalSegment t) ∧
      Spoils (index + before.length) s d := by
  induction segments generalizing index with
  | nil => simp [segmentDefect?] at h
  | cons s rest ih =>
    unfold segmentDefect? at h
    by_cases hempty : s = ""
    · rw [if_pos hempty, Option.some.injEq] at h
      subst hempty h
      exact ⟨[], "", rest, rfl, by simp, .empty⟩
    · rw [if_neg hempty] at h
      by_cases hinside : separator ∈ s.toList
      · rw [if_pos hinside, Option.some.injEq] at h
        subst h
        exact ⟨[], s, rest, rfl, by simp, .separator hempty hinside⟩
      · rw [if_neg hinside] at h
        obtain ⟨before, t, after, rfl, hbefore, hspoils⟩ := ih h
        have hs : LegalSegment s := ⟨hempty, hinside⟩
        refine ⟨s :: before, t, after, rfl, ?_, ?_⟩
        · intro u hu
          rcases List.mem_cons.1 hu with rfl | hu
          · exact hs
          · exact hbefore u hu
        · have hindex : index + (s :: before).length = index + 1 + before.length := by
            simp only [List.length_cons]
            omega
          rw [hindex]
          exact hspoils

/-- Legal segments in front only move the search on. -/
theorem segmentDefect?_append {index : Nat} {before : List String} (rest : List String)
    (hbefore : ∀ t ∈ before, LegalSegment t) :
    segmentDefect? index (before ++ rest) = segmentDefect? (index + before.length) rest := by
  induction before generalizing index with
  | nil => rfl
  | cons s before ih =>
    have hs : LegalSegment s := hbefore s List.mem_cons_self
    have hindex : index + (s :: before).length = index + 1 + before.length := by
      simp only [List.length_cons]
      omega
    rw [List.cons_append, segmentDefect?, if_neg hs.1, if_neg hs.2, hindex]
    exact ih fun t ht => hbefore t (List.mem_cons_of_mem s ht)

theorem segmentDefect?_of_spoils {index : Nat} {s : String} {d : Defect} (rest : List String)
    (h : Spoils index s d) : segmentDefect? index (s :: rest) = some d := by
  unfold segmentDefect?
  cases h with
  | empty => rw [if_pos rfl]
  | separator hfull hinside =>
    have hinside : separator ∈ s.toList := hinside
    rw [if_neg hfull, if_pos hinside]

/-- **The defect that is found is the number of segments, or that of the first bad one.** -/
theorem defect?_eq_some_iff {segments : List String} {d : Defect} :
    defect? segments = some d ↔ Faulty segments d := by
  unfold defect?
  by_cases hcount : LegalCount segments.length
  · rw [if_pos hcount]
    constructor
    · intro h
      obtain ⟨before, s, after, hsplit, hbefore, hspoils⟩ := spoils_of_segmentDefect? h
      rw [Nat.zero_add] at hspoils
      exact .segment hcount hsplit hbefore hspoils
    · intro h
      cases h with
      | count hmany => exact absurd hcount hmany
      | segment _ hsplit hbefore hspoils =>
        rw [hsplit, segmentDefect?_append _ hbefore, Nat.zero_add]
        exact segmentDefect?_of_spoils _ hspoils
  · rw [if_neg hcount, Option.some.injEq]
    constructor
    · rintro rfl
      exact .count hcount
    · intro h
      cases h with
      | count _ => rfl
      | segment hfew => exact absurd hfew hcount

/-! ## 2. Both places do the same -/

theorem token_eq_spelled (id : Identifier) : id.token = spelled id.segments :=
  ofList_joined id.segments

/-- An identifier is made of segments exactly if they are encoded, and then it has their token. -/
theorem map_token_ofSegments (segments : List String) :
    (ofSegments segments).map token = encode segments := by
  cases hdefect : defect? segments with
  | some d =>
    rw [ofSegments_eq_error hdefect]
    unfold encode
    rw [hdefect]
    rfl
  | none =>
    have hlegal : Legal segments := defect?_eq_none_iff.1 hdefect
    have hmade : ofSegments segments = .ok ⟨segments, hlegal⟩ :=
      ofSegments_eq_ok_iff.2 ⟨hlegal, rfl⟩
    have hencode : encode segments = .ok (spelled segments) :=
      encode_eq_ok_iff.2 ⟨hlegal, rfl⟩
    rw [hmade, hencode, Except.map, token_eq_spelled]

/-- An identifier is read off a token exactly if the token is decoded, and then it has its
segments. -/
theorem map_segments_parse (token : String) (expected : Nat) :
    (parse token expected).map segments = decode token expected := by
  cases hdecode : decode token expected with
  | error d => rw [parse_eq_error hdecode, Except.map]
  | ok segments =>
    have hparse : parse token expected = .ok ⟨segments, legal_of_decode_eq_ok hdecode⟩ :=
      parse_eq_ok hdecode
    rw [hparse, Except.map]

theorem ofSegments_eq_error_iff {segments : List String} {d : Defect} :
    ofSegments segments = .error d ↔ Faulty segments d := by
  constructor
  · intro h
    cases hdefect : defect? segments with
    | some d' =>
      rw [ofSegments_eq_error hdefect, Except.error.injEq] at h
      rw [← h]
      exact defect?_eq_some_iff.1 hdefect
    | none =>
      have hlegal : Legal segments := defect?_eq_none_iff.1 hdefect
      have hmade : ofSegments segments = .ok ⟨segments, hlegal⟩ :=
        ofSegments_eq_ok_iff.2 ⟨hlegal, rfl⟩
      rw [h] at hmade
      cases hmade
  · intro h
    exact ofSegments_eq_error (defect?_eq_some_iff.2 h)

/-! ## 3. What identifiers can be relied on for -/

/-- An identifier that segments or a token gave. -/
def Made (id : Identifier) : Prop :=
  (∃ segments, ofSegments segments = .ok id) ∨ ∃ token expected, parse token expected = .ok id

/-- What an identifier can be relied on for. -/
structure Sound (id : Identifier) : Prop where
  /-- It has two to four segments, -/
  count : 2 ≤ id.segments.length ∧ id.segments.length ≤ 4
  /-- none of them empty or with a separator inside. -/
  segments_legal : ∀ s ∈ id.segments, s ≠ "" ∧ '/' ∉ s.toList
  /-- Its scope and its leaf are its first and its last segment, so they are never empty. -/
  scope_eq : id.segments.head? = some id.scope ∧ id.scope ≠ ""
  leaf_eq : id.segments.getLast? = some id.leaf ∧ id.leaf ≠ ""
  /-- Its token leads back to it, -/
  parse_token : parse id.token id.segments.length = .ok id
  /-- and to no other identifier that was made. -/
  token_injective : ∀ other : Identifier, Made other → other.token = id.token → other = id

theorem Made.legal {id : Identifier} (h : Made id) : Legal id.segments := by
  rcases h with ⟨segments, h⟩ | ⟨token, expected, h⟩
  · obtain ⟨hlegal, hsegments⟩ := ofSegments_eq_ok_iff.1 h
    rw [hsegments]
    exact hlegal
  · have hdecode := map_segments_parse token expected
    rw [h] at hdecode
    exact legal_of_decode_eq_ok hdecode.symm

/-- A token says how many segments it has, so identifiers with one token are equal. -/
theorem eq_of_token_eq {id other : Identifier} (h : other.token = id.token) : other = id := by
  have hid : encode id.segments = .ok id.token :=
    encode_eq_ok_iff.2 ⟨id.legal, token_eq_spelled id⟩
  have hother : encode other.segments = .ok id.token :=
    encode_eq_ok_iff.2 ⟨other.legal, h.symm.trans (token_eq_spelled other)⟩
  have hpieces := (decode_eq_ok_iff.1 (encode_eq_ok_iff_decode.1 hid)).2.2.2
  have hpieces' := (decode_eq_ok_iff.1 (encode_eq_ok_iff_decode.1 hother)).2.2.2
  have hsegments : other.segments = id.segments := by rw [hpieces, hpieces']
  cases id
  cases other
  cases hsegments
  rfl

theorem Made.sound {id : Identifier} (h : Made id) : Sound id where
  count := h.legal.1
  segments_legal := h.legal.2
  scope_eq := by
    have hmem : id.scope ∈ id.segments := List.head_mem id.segments_ne_nil
    exact ⟨List.head?_eq_some_head id.segments_ne_nil, (h.legal.2 _ hmem).1⟩
  leaf_eq := by
    have hmem : id.leaf ∈ id.segments := List.getLast_mem id.segments_ne_nil
    exact ⟨List.getLast?_eq_some_getLast id.segments_ne_nil, (h.legal.2 _ hmem).1⟩
  parse_token := parse_token id
  token_injective _ _ := eq_of_token_eq

/-! ## 4. Agreement -/

/-- What it means that identifiers and the codec keep the same rules. -/
structure Agreement : Prop where
  /-- Segments make an identifier exactly if they are encoded, and its token is what they are
  encoded to; otherwise both refuse them with the same error. -/
  encodes : ∀ segments : List String,
    ((ofSegments segments).mapError Defect.error).map token =
      (encode segments).mapError Defect.error
  /-- The error is about the number of segments, or else about the first bad one. -/
  refuses : ∀ (segments : List String) (e : Error),
    (ofSegments segments).mapError Defect.error = .error e ↔
      ∃ d, Faulty segments d ∧ e = .structural d.message
  /-- A token gives an identifier exactly if it is decoded, and its segments are what it is decoded
  to; otherwise both refuse it with the same error. -/
  decodes : ∀ (token : String) (expected : Nat),
    ((parse token expected).mapError Defect.error).map segments =
      (decode token expected).mapError Defect.error
  /-- No identifier that is made is illegal. -/
  sound : ∀ id : Identifier, Made id → Sound id

theorem map_mapError {α β : Type} (f : α → β) (result : Except Defect α) :
    (result.mapError Defect.error).map f = (result.map f).mapError Defect.error := by
  cases result with
  | ok x => rfl
  | error d => rfl

/-- **Identifiers agree with the codec**, whatever they are made of, and none of them is illegal. -/
theorem identifiers_agree : Agreement where
  encodes segments := by rw [map_mapError, map_token_ofSegments]
  refuses segments e := by
    simp only [← ofSegments_eq_error_iff]
    cases ofSegments segments with
    | ok id =>
      change Except.ok id = .error e ↔ _
      simp
    | error d =>
      change Except.error (.structural d.message) = .error e ↔ _
      simp only [Except.error.injEq, exists_eq_left']
      exact eq_comm
  decodes token expected := by rw [map_mapError, map_segments_parse]
  sound _ h := h.sound

/-- Of several bad segments the first one is reported. -/
example : ofSegments ["a", "b/c", ""] = .error (.separatorInside 1 "b/c") := rfl

end Settle.Identifier
