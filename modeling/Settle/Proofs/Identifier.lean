/-
Identifiers are read back as they were written.

`encode` and `decode` work character by character, and each has checks of its own:
one looks for a bad segment before it joins, the other counts and looks for an empty
part after it has split. Section 1 says what both do to whole texts in the words of
the standard library, `String.intercalate` and `String.split`. Section 2 says exactly
when each of them succeeds and with what. That they undo each other is then the law
of splitting and joining, because the two lists of checks come to the same: a part
between separators never holds one. Section 4 says it of identifiers, which carry the
checks with them.
-/
import Settle.Identifier

set_option autoImplicit false

namespace Settle.Identifier

/-! ## 1. Splitting and joining -/

/-- The pieces of a text between separators. -/
def pieces (token : String) : List String := (token.split separator).toList.map String.Slice.copy

/-- Segments with the separator between them. -/
def spelled (segments : List String) : String := String.intercalate "/" segments

theorem parts_eq_splitOn (s : List Char) : parts s = s.splitOn separator := by
  induction s with
  | nil => rfl
  | cons c rest ih =>
    have hne : parts rest ≠ [] := by
      rw [ih]
      exact List.splitOn_ne_nil separator rest
    unfold parts
    rw [List.splitOn, List.splitOnP_cons_eq_if_modifyHead, ← List.splitOn, ← ih]
    by_cases hc : c = separator
    · rw [if_pos hc, if_pos (beq_iff_eq.2 hc)]
    · rw [if_neg hc, if_neg (fun h => hc (beq_iff_eq.1 h))]
      cases hparts : parts rest with
      | nil => exact absurd hparts hne
      | cons part others => rfl

theorem joined_eq_intercalate (parts : List (List Char)) :
    joined parts = [separator].intercalate parts := by
  induction parts with
  | nil => rfl
  | cons part rest ih =>
    cases rest with
    | nil => rw [joined, List.intercalate_singleton]
    | cons next others =>
      rw [joined, List.intercalate_cons_cons, ih, List.append_assoc, List.singleton_append]
      exact List.cons_ne_nil _ _

/-- The parts of a token are its pieces, as texts. -/
theorem map_ofList_parts (token : String) :
    (parts token.toList).map String.ofList = pieces token := by
  rw [parts_eq_splitOn]
  exact String.toList_split_char.symm

/-- Joining the characters of segments spells their token. -/
theorem ofList_joined (segments : List String) :
    String.ofList (joined (segments.map String.toList)) = spelled segments := by
  have hlist : (spelled segments).toList = [separator].intercalate (segments.map String.toList) :=
    String.toList_intercalate
  rw [joined_eq_intercalate, ← hlist, String.ofList_toList]

/-! ## 2. What is accepted -/

/-- The search for a bad segment finds none exactly if all segments are legal. -/
theorem segmentDefect?_eq_none_iff {index : Nat} {segments : List String} :
    segmentDefect? index segments = none ↔ ∀ s ∈ segments, LegalSegment s := by
  refine ⟨legalSegment_of_segmentDefect?_eq_none, fun h => ?_⟩
  induction segments generalizing index with
  | nil => rfl
  | cons s rest ih =>
    have hs : LegalSegment s := h s List.mem_cons_self
    unfold segmentDefect?
    rw [if_neg hs.1, if_neg hs.2]
    exact ih fun t ht => h t (List.mem_cons_of_mem s ht)

theorem defect?_eq_none_iff {segments : List String} :
    defect? segments = none ↔ Legal segments := by
  refine ⟨legal_of_defect?_eq_none, fun h => ?_⟩
  unfold defect?
  rw [if_pos h.1]
  exact segmentDefect?_eq_none_iff.2 h.2

/-- Segments are encoded if they are legal, and then they spell their token. -/
theorem encode_eq_ok_iff {segments : List String} {token : String} :
    encode segments = .ok token ↔ Legal segments ∧ token = spelled segments := by
  unfold encode
  rw [ofList_joined]
  cases hdefect : defect? segments with
  | some d =>
    have hillegal : ¬ Legal segments := by
      intro hlegal
      rw [defect?_eq_none_iff.2 hlegal] at hdefect
      cases hdefect
    simp [hillegal]
  | none =>
    have hlegal := defect?_eq_none_iff.1 hdefect
    simp [hlegal, eq_comm]

/-- A token is decoded if it has the right number of pieces and none is empty, and then the pieces
are its segments. -/
theorem decode_eq_ok_iff {token : String} {expected : Nat} {segments : List String} :
    decode token expected = .ok segments ↔
      LegalCount expected ∧ (pieces token).length = expected ∧ (∀ s ∈ pieces token, s ≠ "") ∧
        segments = pieces token := by
  have hlength : (parts token.toList).length = (pieces token).length := by
    rw [← map_ofList_parts, List.length_map]
  have hfull : (parts token.toList).findIdx? List.isEmpty = none ↔ ∀ s ∈ pieces token, s ≠ "" := by
    rw [List.findIdx?_eq_none_iff, ← map_ofList_parts, List.forall_mem_map]
    refine forall₂_congr fun part _ => ?_
    rw [List.isEmpty_eq_false_iff, Ne, Ne, String.ofList_eq_empty_iff]
  simp only [decode, map_ofList_parts, hlength]
  by_cases hcount : LegalCount expected
  · by_cases hnumber : (pieces token).length = expected
    · simp only [if_pos hcount, if_pos hnumber]
      cases hempty : (parts token.toList).findIdx? List.isEmpty with
      | none =>
        have hall := hfull.1 hempty
        simp only [Except.ok.injEq]
        exact ⟨fun h => ⟨hcount, hnumber, hall, h.symm⟩, fun h => h.2.2.2.symm⟩
      | some index =>
        have hnot : ¬ ∀ s ∈ pieces token, s ≠ "" := by
          rw [← hfull, hempty]
          simp
        simp [hnot]
    · simp [hcount, hnumber]
  · simp [hcount]

/-! ## 3. Reading back -/

/-- What legal segments spell has them for its pieces. -/
theorem pieces_spelled {segments : List String} (h : Legal segments) :
    pieces (spelled segments) = segments := by
  have hsome : segments.map String.toList ≠ [] := by
    have hcount : 2 ≤ segments.length := h.1.1
    intro hnil
    rw [List.map_eq_nil_iff.1 hnil, List.length_nil] at hcount
    omega
  have hclean : ∀ part ∈ segments.map String.toList, separator ∉ part := by
    rw [List.forall_mem_map]
    exact fun s hs => (h.2 s hs).2
  rw [← map_ofList_parts, ← ofList_joined, String.toList_ofList, parts_eq_splitOn,
    joined_eq_intercalate, List.splitOn_intercalate separator hclean hsome, List.map_map]
  exact List.map_id'' (fun s => String.ofList_toList) segments

/-- The pieces of a text spell it. -/
theorem spelled_pieces (token : String) : spelled (pieces token) = token := by
  have hparts : (pieces token).map String.toList = parts token.toList := by
    rw [← map_ofList_parts, List.map_map]
    exact List.map_id'' (fun s => String.toList_ofList) _
  rw [← ofList_joined, hparts, parts_eq_splitOn, joined_eq_intercalate, List.intercalate_splitOn,
    String.ofList_toList]

/-- Between separators there is none. -/
theorem separator_notMem_of_mem_pieces {token s : String} (h : s ∈ pieces token) :
    separator ∉ s.toList := by
  rw [← map_ofList_parts] at h
  obtain ⟨part, hpart, rfl⟩ := List.mem_map.1 h
  rw [String.toList_ofList]
  exact separator_notMem_of_mem_parts hpart

/-- **Encoding and decoding undo each other**: a token is what segments encode to exactly if they
are what it decodes to. -/
theorem encode_eq_ok_iff_decode {segments : List String} {token : String} :
    encode segments = .ok token ↔ decode token segments.length = .ok segments := by
  rw [encode_eq_ok_iff, decode_eq_ok_iff]
  constructor
  · rintro ⟨hlegal, rfl⟩
    -- The pieces of what was spelled are the segments, so what they were checked for holds of them.
    rw [pieces_spelled hlegal]
    exact ⟨hlegal.1, rfl, fun s hs => (hlegal.2 s hs).1, rfl⟩
  · rintro ⟨hcount, -, hfull, hpieces⟩
    -- Nobody looked for separators in the pieces, but a split leaves none.
    rw [hpieces, spelled_pieces]
    rw [hpieces] at hcount
    exact ⟨⟨hcount, fun s hs => ⟨hfull s hs, separator_notMem_of_mem_pieces hs⟩⟩, rfl⟩

/-- A token is decoded into as many segments as were expected. -/
theorem length_of_decode {token : String} {expected : Nat} {segments : List String}
    (h : decode token expected = .ok segments) : segments.length = expected := by
  obtain ⟨-, hlength, -, rfl⟩ := decode_eq_ok_iff.1 h
  exact hlength

/-! ## 4. Identifiers -/

theorem ofSegments_eq_ok_iff {segments : List String} {id : Identifier} :
    ofSegments segments = .ok id ↔ Legal segments ∧ id.segments = segments := by
  rw [← defect?_eq_none_iff]
  unfold ofSegments
  split
  · rename_i d hdefect
    rw [hdefect]
    simp
  · rename_i hdefect
    rw [Except.ok.injEq]
    constructor
    · rintro rfl
      exact ⟨hdefect, rfl⟩
    · rintro ⟨-, hsegments⟩
      cases id
      cases hsegments
      rfl

theorem ofSegments_eq_error {segments : List String} {d : Defect} (h : defect? segments = some d) :
    ofSegments segments = .error d := by
  unfold ofSegments
  split
  · rename_i d' hdefect
    rw [h, Option.some.injEq] at hdefect
    rw [hdefect]
  · rename_i hdefect
    rw [h] at hdefect
    cases hdefect

theorem parse_eq_ok {token : String} {id : Identifier} {expected : Nat}
    (h : decode token expected = .ok id.segments) : parse token expected = .ok id := by
  unfold parse
  split
  · rename_i d hdecode
    rw [hdecode] at h
    cases h
  · rename_i segments hdecode
    rw [hdecode, Except.ok.injEq] at h
    subst h
    rfl

theorem parse_eq_error {token : String} {expected : Nat} {d : Defect}
    (h : decode token expected = .error d) : parse token expected = .error d := by
  unfold parse
  split
  · rename_i d' hdecode
    rw [hdecode, Except.error.injEq] at h
    rw [h]
  · rename_i segments hdecode
    rw [hdecode] at h
    cases h

/-- The last of two segments is the resource itself. -/
theorem leaf_of_segments {id : Identifier} {scope own : String} (h : id.segments = [scope, own]) :
    id.leaf = own := by
  unfold leaf
  simp only [h, List.getLast_cons_cons, List.getLast_singleton]

/-- The token of an identifier leads back to it. -/
theorem parse_token (id : Identifier) : parse id.token id.segments.length = .ok id := by
  have hencode : encode id.segments = .ok id.token :=
    encode_eq_ok_iff.2 ⟨id.legal, ofList_joined id.segments⟩
  exact parse_eq_ok (encode_eq_ok_iff_decode.1 hencode)

/-! ## 5. The codec -/

/-- What can be relied on when identifiers are written down and read back. -/
structure Bijection : Prop where
  /-- Two to four segments are encoded, if none is empty or holds a separator, and nothing else. -/
  encodes : ∀ segments : List String, (∃ token, encode segments = .ok token) ↔
    2 ≤ segments.length ∧ segments.length ≤ 4 ∧ ∀ s ∈ segments, s ≠ "" ∧ '/' ∉ s.toList
  /-- What they are encoded to is decoded to them. -/
  decode_encode : ∀ segments token, encode segments = .ok token →
    token = "/".intercalate segments ∧ decode token segments.length = .ok segments
  /-- A token is decoded if it falls into the expected two to four pieces, none of them empty, and
  not otherwise. -/
  decodes : ∀ token expected, (∃ segments, decode token expected = .ok segments) ↔
    2 ≤ expected ∧ expected ≤ 4 ∧ (pieces token).length = expected ∧ ∀ s ∈ pieces token, s ≠ ""
  /-- What it is decoded to is encoded to it. -/
  encode_decode : ∀ token expected segments, decode token expected = .ok segments →
    segments = pieces token ∧ encode segments = .ok token
  /-- No token has two numbers of segments. -/
  one_count : ∀ token expected other segments others, decode token expected = .ok segments →
    decode token other = .ok others → expected = other
  /-- No two lists of segments have one token, however many they are. -/
  injective : ∀ segments others token, encode segments = .ok token → encode others = .ok token →
    segments = others
  /-- Whatever is refused is malformed, and never said to be missing. -/
  encode_refuses : ∀ segments e, (encode segments).mapError Defect.error = .error e →
    ∃ detail, e = .structural detail
  decode_refuses : ∀ token expected e, (decode token expected).mapError Defect.error = .error e →
    ∃ detail, e = .structural detail

theorem structural_of_mapError {α : Type} {result : Except Defect α} {e : Error}
    (h : result.mapError Defect.error = .error e) : ∃ detail, e = .structural detail := by
  cases result with
  | ok x => cases h
  | error d =>
    cases h
    exact ⟨d.message, rfl⟩

/-- **The codec of identifiers is a bijection** between the legal lists of segments and the tokens
that fall into two to four full pieces. -/
theorem codec_bijection : Bijection where
  encodes segments := by
    have hlegal : (∃ token, encode segments = .ok token) ↔ Legal segments := by
      simp only [encode_eq_ok_iff, exists_and_left, exists_eq, and_true]
    exact hlegal.trans and_assoc
  decode_encode segments token h := by
    exact ⟨(encode_eq_ok_iff.1 h).2, encode_eq_ok_iff_decode.1 h⟩
  decodes token expected := by
    simp only [decode_eq_ok_iff, exists_and_left, exists_eq, and_true]
    exact and_assoc
  encode_decode token expected segments h := by
    refine ⟨(decode_eq_ok_iff.1 h).2.2.2, encode_eq_ok_iff_decode.2 ?_⟩
    rw [length_of_decode h]
    exact h
  one_count token expected other segments others h h' := by
    obtain ⟨-, hlength, -⟩ := decode_eq_ok_iff.1 h
    obtain ⟨-, hlength', -⟩ := decode_eq_ok_iff.1 h'
    rw [← hlength, hlength']
  injective segments others token h h' := by
    have hpieces := (decode_eq_ok_iff.1 (encode_eq_ok_iff_decode.1 h)).2.2.2
    have hpieces' := (decode_eq_ok_iff.1 (encode_eq_ok_iff_decode.1 h')).2.2.2
    rw [hpieces, hpieces']
  encode_refuses segments e := structural_of_mapError
  decode_refuses token expected e := structural_of_mapError

/-- Two separators in a row leave an empty part, and the token is damaged. -/
example : decode "volume//7" 3 = .error (.emptyPart "volume//7" 1) := rfl

end Settle.Identifier
