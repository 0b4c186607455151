/-
Sets of states.

A set of status values, such as a policy has three of, is kept as a list in strictly
increasing order of code points. Two sets with the same members are therefore equal, and
the first member that meets a condition is the smallest one; `validate` reports that one
if two vocabularies overlap.
-/
set_option autoImplicit false

namespace Settle

/-- A finite set of status values. -/
structure StateSet where
  /-- The members, in increasing order. -/
  toList : List String
  sorted : toList.Pairwise (· < ·)
  deriving DecidableEq

namespace StateSet

instance : Membership String StateSet where
  mem s a := a ∈ s.toList

instance (a : String) (s : StateSet) : Decidable (a ∈ s) :=
  inferInstanceAs (Decidable (a ∈ s.toList))

instance : EmptyCollection StateSet where
  emptyCollection := ⟨[], .nil⟩

/-- Puts a text into its place among texts in increasing order. -/
def place (a : String) : List String → List String
  | [] => [a]
  | b :: rest =>
    if a < b then a :: b :: rest
    else if a = b then b :: rest
    else b :: place a rest

/-- Placing adds one member. -/
theorem mem_place {a b : String} {l : List String} : b ∈ place a l ↔ b = a ∨ b ∈ l := by
  induction l with
  | nil => simp [place]
  | cons c rest ih =>
    simp only [place]
    split
    · simp
    · split
      · rename_i hac
        subst hac
        simp
      · simp only [List.mem_cons, ih]
        constructor
        · rintro (h | h | h) <;> simp [h]
        · rintro (h | h | h) <;> simp [h]

/-- Placing keeps the order. -/
theorem pairwise_place {a : String} {l : List String} (h : l.Pairwise (· < ·)) :
    (place a l).Pairwise (· < ·) := by
  induction l with
  | nil => simp [place]
  | cons b rest ih =>
    have ⟨hb, hrest⟩ := List.pairwise_cons.1 h
    simp only [place]
    split
    · rename_i hab
      refine List.pairwise_cons.2 ⟨?_, h⟩
      intro c hc
      rcases List.mem_cons.1 hc with rfl | hc
      · exact hab
      · exact String.lt_trans hab (hb c hc)
    · split
      · exact h
      · rename_i hab hne
        refine List.pairwise_cons.2 ⟨?_, ih hrest⟩
        intro c hc
        rcases mem_place.1 hc with rfl | hc
        · exact Std.lt_of_le_of_ne (String.not_lt.1 hab) (Ne.symm hne)
        · exact hb c hc

/-- A set with one more member. -/
def insert (a : String) (s : StateSet) : StateSet := ⟨place a s.toList, pairwise_place s.sorted⟩

/-- The set of the given states. -/
def ofList (states : List String) : StateSet := states.foldl (fun s a => s.insert a) ∅

@[simp]
theorem mem_insert {a b : String} {s : StateSet} : b ∈ s.insert a ↔ b = a ∨ b ∈ s := mem_place

/-- The members of a set made from a list are those of the list. -/
@[simp]
theorem mem_ofList {a : String} {states : List String} : a ∈ ofList states ↔ a ∈ states := by
  have h : ∀ (l : List String) (s : StateSet),
      a ∈ l.foldl (fun s a => s.insert a) s ↔ a ∈ l ∨ a ∈ s := by
    intro l
    induction l with
    | nil => simp
    | cons b rest ih =>
      intro s
      rw [List.foldl_cons, ih, mem_insert, List.mem_cons]
      constructor
      · rintro (h | h | h) <;> simp [h]
      · rintro ((h | h) | h) <;> simp [h]
  refine (h states ∅).trans ⟨?_, Or.inl⟩
  rintro (h | h)
  · exact h
  · exact absurd h List.not_mem_nil

/-- The smallest state that two sets share. -/
def firstShared? (s t : StateSet) : Option String := s.toList.find? (· ∈ t)

end StateSet

end Settle
