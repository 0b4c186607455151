/-
Scripts.

A script is a list of prepared answers. Each use takes the next one, and the last
one is never used up: from then on it repeats. An empty script has no answer. Scripts for
several resources are kept in a table by key.
-/
set_option autoImplicit false

namespace Settle

/-- The prepared answers that are still to come. -/
abbrev Script (α : Type) := List α

namespace Script

variable {α : Type}

/-- `next`: the next answer, and the script after it. -/
def next? : Script α → Option (α × Script α)
  | [] => none
  | [last] => some (last, [last])
  | a :: b :: rest => some (a, b :: rest)

/-- The answer of the `k`-th use, counted from zero. -/
def answerAt? (s : Script α) (k : Nat) : Option α := s[min k (s.length - 1)]?

end Script

/-- Lists by key; a key that was never given a list has the empty one. The entries stay in the
order in which their keys first came up. -/
abbrev Table (α : Type) := List (String × List α)

namespace Table

variable {α : Type}

/-- The list of a key. -/
def get : Table α → String → List α
  | [], _ => []
  | (k, entries) :: rest, key => if k = key then entries else get rest key

/-- Gives a key a list. -/
def set : Table α → String → List α → Table α
  | [], key, entries => [(key, entries)]
  | (k, old) :: rest, key, entries =>
    if k = key then (k, entries) :: rest else (k, old) :: set rest key entries

/-- Adds to the end of the list of a key. -/
def append (t : Table α) (key : String) (entries : List α) : Table α :=
  t.set key (t.get key ++ entries)

/-- The next answer from the script of a key, if there is one, and the table after it. -/
def next? (t : Table α) (key : String) : Option (α × Table α) :=
  (Script.next? (t.get key)).map fun (a, script) => (a, t.set key script)

/-- How many entries there are under all keys. -/
def size : Table α → Nat
  | [] => 0
  | (_, entries) :: rest => entries.length + size rest

/-- Setting the list of one key changes that of no other. -/
theorem get_set (t : Table α) (key other : String) (entries : List α) :
    (t.set key entries).get other = if key = other then entries else t.get other := by
  induction t with
  | nil => simp [set, get]
  | cons entry rest ih =>
    obtain ⟨k, old⟩ := entry
    simp only [set]
    split
    · rename_i hk
      subst hk
      simp only [get]
      split <;> rfl
    · rename_i hk
      simp only [get, ih]
      split
      · rename_i hko
        subst hko
        rw [if_neg (Ne.symm hk)]
      · rfl

end Table

end Settle
