/-
Identifiers of nested resources: `encode`, `decode`.

A resource that lives inside others is named by two to four segments, outermost
first, written as one token with a slash between them. A segment is never empty
and holds no slash, so a token can be taken apart in one way only. A token with
the wrong number of segments is a damaged name and says nothing about whether
the resource exists.

`encode` and `decode` work on plain segments. `Identifier` keeps the rules in its
type; it is the `CompositeId` of the program, made by `new` or `parse`.
-/
import Settle.Error
import Settle.Text.Quoted

set_option autoImplicit false

namespace Settle

namespace Identifier

/-- The character between segments. -/
def separator : Char := '/'

/-- The fewest segments of an identifier: a resource and what it lives in. -/
def minSegments : Nat := 2

/-- The most segments of an identifier. -/
def maxSegments : Nat := 4

/-- What is wrong with segments or with a token. -/
inductive Defect where
  /-- There cannot be so many segments. -/
  | count (n : Nat)
  /-- A segment is empty. -/
  | emptySegment (index : Nat)
  /-- A segment holds the separator. -/
  | separatorInside (index : Nat) (segment : String)
  /-- A token has another number of parts than expected. -/
  | partCount (token : String) (found expected : Nat)
  /-- A part of a token is empty. -/
  | emptyPart (token : String) (index : Nat)
  deriving DecidableEq

/-- How a defect reads. -/
def Defect.message : Defect → String
  | .count n =>
    .join ["composite identifiers have ", toString minSegments, " to ", toString maxSegments,
      " segments, got ", toString n]
  | .emptySegment index => .join ["segment ", toString index, " is empty"]
  | .separatorInside index segment =>
    .join ["segment ", toString index, " (", Text.quoted segment, ") contains the separator '/'"]
  | .partCount token found expected =>
    .join ["identifier ", Text.quoted token, " has ", toString found, " segment(s), expected ",
      toString expected]
  | .emptyPart token index =>
    .join ["identifier ", Text.quoted token, " has an empty segment at position ",
      toString index]

/-- A defect of any kind makes a name malformed; it never means that a resource is missing. -/
def Defect.error (d : Defect) : Error := .structural d.message

/-- A number of segments that an identifier can have. -/
def LegalCount (n : Nat) : Prop := minSegments ≤ n ∧ n ≤ maxSegments

instance (n : Nat) : Decidable (LegalCount n) := inferInstanceAs (Decidable (_ ∧ _))

/-- A text that can be a segment. -/
def LegalSegment (s : String) : Prop := s ≠ "" ∧ separator ∉ s.toList

instance (s : String) : Decidable (LegalSegment s) := inferInstanceAs (Decidable (_ ∧ _))

/-- Segments that make an identifier. -/
def Legal (segments : List String) : Prop :=
  LegalCount segments.length ∧ ∀ s ∈ segments, LegalSegment s

instance (segments : List String) : Decidable (Legal segments) :=
  inferInstanceAs (Decidable (_ ∧ _))

/-! ## Segments to token -/

/-- The first segment from `index` on that is no legal one. -/
def segmentDefect? : Nat → List String → Option Defect
  | _, [] => none
  | index, s :: rest =>
    if s = "" then some (.emptySegment index)
    else if separator ∈ s.toList then some (.separatorInside index s)
    else segmentDefect? (index + 1) rest

/-- What is wrong with segments: their number first (`check_count`), then the first bad one
(`check_segment`). -/
def defect? (segments : List String) : Option Defect :=
  if LegalCount segments.length then segmentDefect? 0 segments
  else some (.count segments.length)

/-- Texts with the separator between them. -/
def joined : List (List Char) → List Char
  | [] => []
  | [part] => part
  | part :: rest => part ++ separator :: joined rest

/-- `encode`: the token of segments, if they make an identifier. -/
def encode (segments : List String) : Except Defect String :=
  match defect? segments with
  | some d => .error d
  | none => .ok (.ofList (joined (segments.map String.toList)))

/-! ## Token to segments -/

/-- The parts of a text between separators. There is always one, which may be empty. -/
def parts : List Char → List (List Char)
  | [] => [[]]
  | c :: rest =>
    if c = separator then [] :: parts rest
    else match parts rest with
      | [] => [[c]]
      | part :: others => (c :: part) :: others

/-- `decode`: the `expected` segments of a token. -/
def decode (token : String) (expected : Nat) : Except Defect (List String) :=
  if LegalCount expected then
    let found := parts token.toList
    if found.length = expected then
      match found.findIdx? List.isEmpty with
      | some index => .error (.emptyPart token index)
      | none => .ok (found.map String.ofList)
    else .error (.partCount token found.length expected)
  else .error (.count expected)

/-! ## What encoding and decoding let through -/

/-- Segments that the search for a bad one passes are legal. -/
theorem legalSegment_of_segmentDefect?_eq_none {index : Nat} {segments : List String}
    (h : segmentDefect? index segments = none) : ∀ s ∈ segments, LegalSegment s := by
  induction segments generalizing index with
  | nil => simp
  | cons s rest ih =>
    simp only [segmentDefect?] at h
    split at h
    · contradiction
    · rename_i hne
      split at h
      · contradiction
      · rename_i hsep
        intro t ht
        rcases List.mem_cons.1 ht with rfl | ht
        · exact ⟨hne, hsep⟩
        · exact ih h t ht

/-- Segments without a defect make an identifier. -/
theorem legal_of_defect?_eq_none {segments : List String} (h : defect? segments = none) :
    Legal segments := by
  simp only [defect?] at h
  split at h
  · rename_i hcount
    exact ⟨hcount, legalSegment_of_segmentDefect?_eq_none h⟩
  · contradiction

/-- No part of a text holds the separator. -/
theorem separator_notMem_of_mem_parts {s part : List Char} (h : part ∈ parts s) :
    separator ∉ part := by
  induction s generalizing part with
  | nil => simp_all [parts]
  | cons c rest ih =>
    simp only [parts] at h
    split at h
    · rcases List.mem_cons.1 h with rfl | h
      · simp
      · exact ih h
    · rename_i hc
      split at h
      · simp only [List.mem_singleton] at h
        simp [h, Ne.symm hc]
      · rename_i first others hparts
        rcases List.mem_cons.1 h with rfl | h
        · have := @ih first (by simp [hparts])
          simp [this, Ne.symm hc]
        · exact ih (by simp [hparts, h])

/-- What decoding gives makes an identifier. -/
theorem legal_of_decode_eq_ok {token : String} {expected : Nat} {segments : List String}
    (h : decode token expected = .ok segments) : Legal segments := by
  simp only [decode] at h
  split at h
  · rename_i hcount
    split at h
    · rename_i hlength
      split at h
      · contradiction
      · rename_i hfind
        simp only [Except.ok.injEq] at h
        subst h
        refine ⟨by simpa [hlength] using hcount, ?_⟩
        intro s hs
        obtain ⟨part, hpart, rfl⟩ := List.mem_map.1 hs
        have hne := List.findIdx?_eq_none_iff.1 hfind part hpart
        refine ⟨?_, by simpa using separator_notMem_of_mem_parts hpart⟩
        intro hempty
        have : part = [] := by simpa using congrArg String.toList hempty
        simp [this] at hne
    · contradiction
  · contradiction

end Identifier

/-- The name of a nested resource (`CompositeId`). -/
structure Identifier where
  segments : List String
  legal : Identifier.Legal segments
  deriving DecidableEq

namespace Identifier

/-- `new`: the identifier of the given segments. -/
def ofSegments (segments : List String) : Except Defect Identifier :=
  match h : defect? segments with
  | some d => .error d
  | none => .ok ⟨segments, legal_of_defect?_eq_none h⟩

/-- `parse`: the identifier that a token of `expected` segments stands for. -/
def parse (token : String) (expected : Nat) : Except Defect Identifier :=
  match h : decode token expected with
  | .error d => .error d
  | .ok segments => .ok ⟨segments, legal_of_decode_eq_ok h⟩

/-- An identifier has segments. -/
theorem segments_ne_nil (id : Identifier) : id.segments ≠ [] := by
  intro h
  have := id.legal.1.1
  simp [h, minSegments] at this

/-- The outermost segment. -/
def scope (id : Identifier) : String := id.segments.head id.segments_ne_nil

/-- The innermost segment: the resource itself. -/
def leaf (id : Identifier) : String := id.segments.getLast id.segments_ne_nil

/-- The token of an identifier. -/
def token (id : Identifier) : String := .ofList (joined (id.segments.map String.toList))

end Identifier

end Settle
