/-
Where a message names a missing resource.

`message_indicates_not_found` goes over the message in lower case, which is another text: a
capital I with a dot becomes two characters, the sign for kelvin becomes an ASCII letter,
and what becomes of a sigma depends on its neighbours. None of this matters to a phrase
that is `Sturdy`, and all the phrases searched for are. Such a phrase has no `k`. It may
have an `i`, because the small form of the dotted capital goes on with a dot and so does
not fit into a longer phrase; only an `i` at the very end could come from it.

What counts of a message is its `outline`: the ASCII characters without their case, with a
gap for every other character. `Sturdy.infix_iff` takes the search from the lower case of a
text to its outline, in which every character keeps its place.
-/
import Mathlib
import Settle.Text.Phrase

set_option autoImplicit false

namespace Settle.Text

/-! ## 1. Small forms -/

section SmallForms

variable {c : Char}

theorem toNat_lt_of_isUpper (h : c.isUpper = true) : c.toNat < 0x5b := by
  simp only [Char.isUpper, decide_eq_true_eq, ge_iff_le, UInt32.le_iff_toNat_le] at h
  have hle : c.toNat ≤ 'Z'.toNat := h.2
  have hz : 'Z'.toNat = 0x5a := rfl
  omega

/-- Only ASCII letters have a case that ASCII knows of, -/
theorem toLower_of_beyond (hc : 0x80 ≤ c.toNat) : c.toLower = c := by
  refine Char.toLower_eq_of_not_isUpper fun hupper => ?_
  have hlt := toNat_lt_of_isUpper hupper
  omega

/-- and they stay in ASCII without it. -/
theorem toLower_of_ascii (hc : c.toNat < 0x80) : c.toLower.toNat < 0x80 := by
  by_cases hupper : c.isUpper = true
  · have hlt := toNat_lt_of_isUpper hupper
    have hchar : (c.toNat + 32).isValidChar := by
      unfold Nat.isValidChar
      omega
    rw [Char.toLower_eq_of_isUpper hupper, Char.toNat_ofNat, if_pos hchar]
    omega
  · rw [Char.toLower_eq_of_not_isUpper hupper]
    exact hc

/-- What becomes of a character beyond ASCII: another one, or one of two ASCII letters, of which the
second has a dot after it. -/
inductive Beyond : List Char → Prop
  | single {c : Char} (h : 0x80 ≤ c.toNat) : Beyond [c]
  | kelvin : Beyond ['k']
  | dotted {dot : Char} (h : 0x80 ≤ dot.toNat) : Beyond ['i', dot]

/-- A run leads to characters beyond ASCII, unless it is that of the sign for kelvin. -/
def CaseRun.Apart (r : CaseRun) : Prop :=
  r.small = 'k'.toNat ∧ r.last = r.first ∨
    0x80 ≤ r.small ∧ (r.small + (r.last - r.first) < 0xd800 ∨
      0xdfff < r.small ∧ r.small + (r.last - r.first) < 0x110000)

instance (r : CaseRun) : Decidable r.Apart := inferInstanceAs (Decidable (_ ∨ _))

theorem caseRuns_apart : ∀ r ∈ caseRuns, r.Apart := by decide +kernel

theorem CaseRun.Apart.beyond {r : CaseRun} (h : r.Apart) {n : Nat} (hcovers : r.covers n = true) :
    Beyond [Char.ofNat (r.small + (n - r.first))] := by
  unfold covers at hcovers
  simp only [Bool.and_eq_true, decide_eq_true_eq] at hcovers
  obtain ⟨⟨hfirst, hlast⟩, -⟩ := hcovers
  rcases h with ⟨hkelvin, hone⟩ | ⟨hbeyond, hvalid⟩
  · have hn : n - r.first = 0 := by omega
    rw [hkelvin, hn]
    exact .kelvin
  · -- The run keeps clear of the code points that are no characters.
    have hchar : (r.small + (n - r.first)).isValidChar := by
      unfold Nat.isValidChar
      omega
    refine .single ?_
    rw [Char.toNat_ofNat, if_pos hchar]
    omega

theorem beyond_lowercase (hc : 0x80 ≤ c.toNat) : Beyond (lowercase c) := by
  unfold lowercase
  rw [if_neg (Nat.not_lt.2 hc)]
  by_cases hdotted : c.toNat = 0x130
  · rw [if_pos hdotted]
    exact .dotted (by decide)
  · rw [if_neg hdotted]
    cases hrun : caseRuns.find? fun r => r.covers c.toNat with
    | none => exact .single hc
    | some r =>
      have happart := caseRuns_apart r (Array.mem_of_find?_eq_some hrun)
      have hcovers := Array.find?_some hrun
      exact happart.beyond hcovers

variable (before after : List Char)

/-- A sigma stays beyond ASCII whatever its neighbours are. -/
theorem beyond_lowercaseBetween (hc : 0x80 ≤ c.toNat) :
    Beyond (lowercaseBetween before c after) := by
  unfold lowercaseBetween
  split
  · exact .single (by decide)
  · exact beyond_lowercase hc

theorem lowercaseBetween_of_ascii (hc : c.toNat < 0x80) :
    lowercaseBetween before c after = [c.toLower] := by
  have hsigma : ¬ (c.toNat = 0x3a3 && leadsToCased before && !leadsToCased after) = true := by
    simp only [Bool.and_eq_true, decide_eq_true_eq]
    omega
  unfold lowercaseBetween lowercase
  rw [if_neg hsigma, if_pos hc]

end SmallForms

/-! ## 2. Outlines -/

/-- What counts of a character: an ASCII character without its case, and nothing of any other. -/
def outline (c : Char) : Option Char := if c.toNat < 0x80 then some c.toLower else none

section Outline

variable {c d : Char}

theorem outline_of_ascii (hc : c.toNat < 0x80) : outline c = some c.toLower := if_pos hc

theorem outline_of_beyond (hc : 0x80 ≤ c.toNat) : outline c = none := if_neg (Nat.not_lt.2 hc)

/-- It is the same in either case, -/
theorem outline_toLower (c : Char) : outline c.toLower = outline c := by
  by_cases hc : c.toNat < 0x80
  · rw [outline_of_ascii hc, outline_of_ascii (toLower_of_ascii hc),
      Char.toLower_toLower_eq_toLower]
  · rw [toLower_of_beyond (Nat.not_lt.1 hc)]

/-- and shows the ASCII character that it is in lower case. -/
theorem outline_eq_some_iff (hd : d.toNat < 0x80) : outline c = some d ↔ c.toLower = d := by
  by_cases hc : c.toNat < 0x80
  · rw [outline_of_ascii hc, Option.some.injEq]
  · have hbeyond := Nat.not_lt.1 hc
    rw [outline_of_beyond hbeyond, toLower_of_beyond hbeyond]
    constructor
    · intro h
      cases h
    · rintro rfl
      exact absurd hd hc

/-- The same holds of texts. -/
theorem map_outline_eq_iff {phrase part : List Char} (hascii : ∀ c ∈ phrase, c.toNat < 0x80) :
    part.map outline = phrase.map some ↔ part.map Char.toLower = phrase := by
  induction part generalizing phrase with
  | nil => cases phrase <;> simp
  | cons c part ih =>
    cases phrase with
    | nil => simp
    | cons d phrase =>
      obtain ⟨hd, hphrase⟩ := List.forall_mem_cons.1 hascii
      simp only [List.map_cons, List.cons.injEq, outline_eq_some_iff hd, ih hphrase]

end Outline

/-- A phrase that no character beyond ASCII can help to spell: ASCII without the letter that the
sign for kelvin becomes, and not with the letter of the dotted capital at its end, where the dot
would not be in the way. -/
structure Sturdy (phrase : List Char) : Prop where
  ascii : ∀ c ∈ phrase, c.toNat < 0x80
  no_kelvin : 'k' ∉ phrase
  no_dotted : phrase.getLast? ≠ some 'i'

-- The characters are asked one by one: left to itself, `decide` goes through all that there are.
instance (phrase : List Char) : Decidable (Sturdy phrase) :=
  decidable_of_iff (phrase.all (·.toNat < 0x80) = true ∧ 'k' ∉ phrase ∧
      phrase.getLast? ≠ some 'i')
    ⟨fun ⟨hall, hkelvin, hdotted⟩ =>
      ⟨fun c hc => of_decide_eq_true (List.all_eq_true.1 hall c hc), hkelvin, hdotted⟩,
      fun h => ⟨List.all_eq_true.2 fun c hc => decide_eq_true (h.ascii c hc), h.no_kelvin,
        h.no_dotted⟩⟩

namespace Sturdy

variable {c : Char} {phrase : List Char}

theorem tail (h : Sturdy (c :: phrase)) : Sturdy phrase where
  ascii d hd := h.ascii d (List.mem_cons_of_mem c hd)
  no_kelvin hk := h.no_kelvin (List.mem_cons_of_mem c hk)
  no_dotted hi := by
    have hlast := h.no_dotted
    rw [List.getLast?_cons, hi] at hlast
    exact hlast rfl

/-- No such phrase begins with what becomes of a character beyond ASCII. -/
theorem not_prefix_beyond (h : Sturdy (c :: phrase)) {form : List Char} (hform : Beyond form)
    (rest : List Char) : ¬ c :: phrase <+: form ++ rest := by
  intro hprefix
  have hascii := h.ascii c List.mem_cons_self
  cases hform with
  | single hd =>
    obtain ⟨rfl, -⟩ := List.cons_prefix_cons.1 hprefix
    omega
  | kelvin =>
    obtain ⟨rfl, -⟩ := List.cons_prefix_cons.1 hprefix
    exact h.no_kelvin List.mem_cons_self
  | dotted hdot =>
    obtain ⟨rfl, hlater⟩ := List.cons_prefix_cons.1 hprefix
    cases phrase with
    | nil => exact h.no_dotted rfl
    | cons d phrase =>
      -- The phrase goes on, and so does the small form, with its dot.
      obtain ⟨rfl, -⟩ := List.cons_prefix_cons.1 hlater
      have hdot' := h.tail.ascii _ List.mem_cons_self
      omega

/-- By induction on the text: as long as its characters are in ASCII, they stand in lower case where
they stand in the text. -/
theorem prefix_iff (h : Sturdy phrase) (before text : List Char) :
    phrase <+: lowercasedAfter before text ↔ phrase.map some <+: text.map outline := by
  induction text generalizing phrase before with
  | nil => simp [lowercasedAfter]
  | cons d text ih =>
    cases phrase with
    | nil => simp
    | cons c phrase =>
      unfold lowercasedAfter
      rw [List.map_cons, List.map_cons, List.cons_prefix_cons]
      by_cases hd : d.toNat < 0x80
      · rw [lowercaseBetween_of_ascii _ _ hd, List.singleton_append, List.cons_prefix_cons,
          outline_of_ascii hd, Option.some.injEq, ih h.tail]
      · have hbeyond := beyond_lowercaseBetween before text (Nat.not_lt.1 hd)
        rw [outline_of_beyond (Nat.not_lt.1 hd)]
        constructor
        · intro hprefix
          exact absurd hprefix (h.not_prefix_beyond hbeyond _)
        · rintro ⟨hc, -⟩
          cases hc

/-- Nor does one begin at the dot inside what becomes of a character. -/
theorem infix_beyond_iff (h : Sturdy (c :: phrase)) {form : List Char} (hform : Beyond form)
    (rest : List Char) : c :: phrase <:+: form ++ rest ↔ c :: phrase <:+: rest := by
  have hstart := h.not_prefix_beyond hform rest
  cases hform with
  | single _ => exact List.infix_cons_iff.trans (or_iff_right hstart)
  | kelvin => exact List.infix_cons_iff.trans (or_iff_right hstart)
  | dotted hdot =>
    have hinside := h.not_prefix_beyond (.single hdot) rest
    have hafter := List.infix_cons_iff.trans (or_iff_right hinside)
    exact (List.infix_cons_iff.trans (or_iff_right hstart)).trans hafter

/-- **A sturdy phrase stands in the lower case of a text where it stands in its outline.** -/
theorem infix_iff (h : Sturdy phrase) (before text : List Char) :
    phrase <:+: lowercasedAfter before text ↔ phrase.map some <:+: text.map outline := by
  cases phrase with
  | nil => simp
  | cons c phrase =>
    induction text generalizing before with
    | nil => simp [lowercasedAfter]
    | cons d text ih =>
      have hprefix := h.prefix_iff before (d :: text)
      have hlater := ih (d :: before)
      have houtline : (d :: text).map outline = outline d :: text.map outline := rfl
      unfold lowercasedAfter at hprefix ⊢
      rw [houtline] at hprefix ⊢
      rw [List.infix_cons_iff, ← hprefix, ← hlater]
      by_cases hd : d.toNat < 0x80
      · rw [lowercaseBetween_of_ascii _ _ hd, List.singleton_append, List.infix_cons_iff]
      · have hbeyond := beyond_lowercaseBetween before text (Nat.not_lt.1 hd)
        rw [h.infix_beyond_iff hbeyond, or_iff_right (h.not_prefix_beyond hbeyond _)]

end Sturdy

/-! ## 3. Messages -/

/-- Some part of a text differs from a phrase in the case of ASCII letters at most. -/
def Names (text phrase : String) : Prop :=
  ∃ before part after, text = before ++ part ++ after ∧ sameIgnoringCase part phrase = true

theorem mentions_iff (phrase text : List Char) :
    mentions phrase text = true ↔ phrase <:+: text := by
  induction text with
  | nil => simp [mentions]
  | cons c text ih =>
    rw [mentions, Bool.or_eq_true, List.isPrefixOf_iff_prefix, ih, List.infix_cons_iff]

/-- A text names a phrase if the phrase is in its outline. -/
theorem names_iff {text phrase : String} (hascii : ∀ c ∈ phrase.toList, c.toNat < 0x80)
    (hsmall : phrase.toList.map Char.toLower = phrase.toList) :
    Names text phrase ↔ phrase.toList.map some <:+: text.toList.map outline := by
  have hpart (part : String) : sameIgnoringCase part phrase = true ↔
      part.toList.map outline = phrase.toList.map some := by
    rw [sameIgnoringCase, beq_iff_eq, hsmall, map_outline_eq_iff hascii]
  constructor
  · rintro ⟨before, part, after, rfl, hsame⟩
    rw [String.toList_append, String.toList_append, List.map_append, List.map_append,
      (hpart part).1 hsame]
    exact List.infix_append _ _ _
  · intro hin
    obtain ⟨part, ⟨before, after, htext⟩, hsame⟩ := List.infix_map_iff.1 hin
    refine ⟨.ofList before, .ofList part, .ofList after, ?_, (hpart _).2 ?_⟩
    · rw [← String.ofList_append, ← String.ofList_append, htext, String.ofList_toList]
    · rw [String.toList_ofList, hsame]

/-- The phrases that report a missing resource are sturdy, and in lower case. -/
theorem absencePhrases_sturdy : ∀ phrase ∈ absencePhrases,
    Sturdy phrase.toList ∧ phrase.toList.map Char.toLower = phrase.toList := by decide

/-- **A message reports a missing resource if one of the phrases is in its outline.** -/
theorem reportsAbsence_iff (message : String) :
    reportsAbsence message = true ↔
      ∃ phrase ∈ absencePhrases, phrase.toList.map some <:+: message.toList.map outline := by
  rw [reportsAbsence, List.any_eq_true]
  refine exists_congr fun phrase => and_congr_right fun hphrase => ?_
  obtain ⟨hsturdy, -⟩ := absencePhrases_sturdy phrase hphrase
  rw [mentions_iff, lowercased, hsturdy.infix_iff]

/-- In other words, if it names one of them. -/
theorem reportsAbsence_iff_names (message : String) :
    reportsAbsence message = true ↔ ∃ phrase ∈ absencePhrases, Names message phrase := by
  rw [reportsAbsence_iff]
  refine exists_congr fun phrase => and_congr_right fun hphrase => ?_
  obtain ⟨hsturdy, hsmall⟩ := absencePhrases_sturdy phrase hphrase
  rw [names_iff hsturdy.ascii hsmall]

/-- What it reports depends on its outline alone. -/
theorem reportsAbsence_congr {message other : String}
    (h : message.toList.map outline = other.toList.map outline) :
    reportsAbsence message = reportsAbsence other := by
  rw [Bool.eq_iff_iff, reportsAbsence_iff, reportsAbsence_iff, h]

/-! ## 4. What leaves the outline as it is -/

/-- Two characters are the same, or both are beyond ASCII. -/
def SameInAscii (c d : Char) : Prop := c = d ∨ 0x80 ≤ c.toNat ∧ 0x80 ≤ d.toNat

theorem map_outline_of_sameInAscii {s t : List Char} (h : List.Forall₂ SameInAscii s t) :
    s.map outline = t.map outline := by
  induction h with
  | nil => rfl
  | cons hsame _ ih =>
    rw [List.map_cons, List.map_cons, ih]
    rcases hsame with rfl | ⟨hc, hd⟩
    · rfl
    · rw [outline_of_beyond hc, outline_of_beyond hd]

theorem map_outline_of_sameIgnoringCase {s t : String} (h : sameIgnoringCase s t = true) :
    s.toList.map outline = t.toList.map outline := by
  have hlower (l : List Char) : l.map outline = (l.map Char.toLower).map outline := by
    rw [List.map_map]
    exact List.map_congr_left fun c _ => (outline_toLower c).symm
  rw [sameIgnoringCase, beq_iff_eq] at h
  rw [hlower, h, ← hlower]

/-- What it means that a message reports a missing resource where it names one, and nowhere else. -/
structure AbsenceNamed : Prop where
  /-- Some part of the message is one of the three phrases, up to the case of ASCII letters. -/
  named : ∀ message, reportsAbsence message = true ↔
    Names message "not found" ∨ Names message "does not exist" ∨ Names message "notfound"
  /-- Characters beyond ASCII tell nothing: each may be exchanged for another one. -/
  beyond : ∀ message other : String, List.Forall₂ SameInAscii message.toList other.toList →
    reportsAbsence message = reportsAbsence other
  /-- Nor does the case of ASCII letters. -/
  case : ∀ message other, sameIgnoringCase message other = true →
    reportsAbsence message = reportsAbsence other
  /-- A message that reports a missing resource still does so with more text around it. -/
  around : ∀ before message after, reportsAbsence message = true →
    reportsAbsence (before ++ message ++ after) = true

/-- **A message reports a missing resource exactly if it names one.** -/
theorem absence_named : AbsenceNamed where
  named message := by
    rw [reportsAbsence_iff_names]
    simp [absencePhrases]
  beyond message other h := reportsAbsence_congr (map_outline_of_sameInAscii h)
  case message other h := reportsAbsence_congr (map_outline_of_sameIgnoringCase h)
  around before message after h := by
    obtain ⟨phrase, hphrase, hin⟩ := (reportsAbsence_iff message).1 h
    refine (reportsAbsence_iff _).2 ⟨phrase, hphrase, hin.trans ?_⟩
    rw [String.toList_append, String.toList_append, List.map_append, List.map_append]
    exact List.infix_append _ _ _

/-- The dotted capital does not stand for the letter it becomes, -/
example : reportsAbsence "does not ex\u0130st" = false := by decide +kernel

/-- but a phrase with the letter of the sign for kelvin would be found where it is not. -/
example : mentions ['k'] (lowercased ['\u212a']) = true := by decide +kernel

end Settle.Text
