/-
What readers of records pass over.

A reader takes back what the writer of its format gives, but it takes more: an object may
have keys that nobody asks for, in the record and in every record inside it, and what an
absent field is taken to say may as well be written out. `Format` says of a record what its
reader knows: the names of the fields in their order, what more can be written inside each,
and what an object without it is taken to say. `Format.Pads` is one such addition in one
place. A reader keeps to a format if no addition moves it (`Unmoved`), and this comes down to
its fields: each has a rule for each way in which fields are read.

`RoundTrips` puts it together for a reader and a writer. It speaks of any number of
additions and removals, so of all the ways to write the same record, and the writer keeps to
the same format as the reader.
-/
import Mathlib.Data.List.Nodup
import Mathlib.Logic.Relation
import Settle.Json.Record

set_option autoImplicit false

namespace Settle.Json

/-! ## 1. Values written and read back -/

@[simp] theorem string?_string (s : String) : string? (.string s) = some s := rfl

@[simp] theorem bool?_bool (b : Bool) : bool? (.bool b) = some b := rfl

@[simp] theorem int64?_ofInt64 (n : Int64) : int64? (ofInt64 n) = some n := by
  rw [ofInt64, int64?, if_pos ⟨n.minValue_le_toInt, n.toInt_le⟩, Int64.ofInt_toInt]

/-- What can be read back is not null, so it is not mistaken for nothing. -/
theorem nullable?_of_back {α : Type} {read : Json → Option α} {write : α → Json}
    (hnull : read .null = none) (back : ∀ a, read (write a) = some a) (a : α) :
    nullable? read (write a) = some (some a) := by
  have hwritten : write a ≠ .null := by
    intro h
    have hback := back a
    rw [h, hnull] at hback
    cases hback
  rw [nullable?.eq_2 _ _ hwritten, back, Option.map_some]

theorem nullable?_ofOption {α : Type} {read : Json → Option α} {write : α → Json}
    (hnull : read .null = none) (back : ∀ a, read (write a) = some a) (o : Option α) :
    nullable? read (ofOption write o) = some o := by
  cases o with
  | none => rfl
  | some a => exact nullable?_of_back hnull back a

@[simp] theorem nullable?_text (o : Option String) :
    nullable? string? (ofOption string o) = some o :=
  nullable?_ofOption (by rfl) (fun _ => by rfl) o

theorem list?_map {α : Type} {read : Json → Option α} {write : α → Json}
    (back : ∀ a, read (write a) = some a) (as : List α) :
    list? read (.array (as.map write)) = some as := by
  rw [list?]
  induction as with
  | nil => rfl
  | cons a as ih =>
    rw [List.map_cons, List.mapM_cons, back, ih]
    rfl

@[simp] theorem lookup_nil (key : String) : lookup key [] = none := rfl

@[simp] theorem lookup_cons_self (key : String) (j : Json) (rest : List (String × Json)) :
    lookup key ((key, j) :: rest) = some j := if_pos rfl

@[simp] theorem lookup_cons_of_ne {key other : String} (h : other ≠ key) (j : Json)
    (rest : List (String × Json)) : lookup key ((other, j) :: rest) = lookup key rest := if_neg h

@[simp] theorem fields?_object (size : Nat) (entries : List (String × Json)) :
    (object entries).fields? size = some (.named entries) := rfl

section

variable {α : Type} (entries : List (String × Json)) (place : Nat) (key : String)
variable (read : Json → Option α)

@[simp] theorem Fields.required_named :
    (named entries).required place key read = (lookup key entries).bind read := rfl

@[simp] theorem Fields.defaulted_named (default : α) :
    (named entries).defaulted place key default read =
      (lookup key entries).elim (some default) read := by
  rw [defaulted, find?]
  cases lookup key entries <;> rfl

@[simp] theorem Fields.optional_named :
    (named entries).optional place key read =
      (lookup key entries).elim (some none) (nullable? read) := by
  cases h : lookup key entries <;> simp only [optional, find?, h] <;> rfl

end

/-! ## 2. Padding -/

/-- A way to write more into a value: the value before and after. -/
abbrev Padding := Json → Json → Prop

/-- Nothing more can be written. -/
def Padding.never : Padding := fun _ _ => False

/-- More is written into an item of a list. -/
inductive Padding.Items (inside : Padding) : Json → Json → Prop
  | item (before after : List Json) {j j' : Json} (h : inside j j') :
    Items inside (.array (before ++ j :: after)) (.array (before ++ j' :: after))

/-- What a reader knows of one field. -/
structure Slot where
  key : String
  /-- What more can be written in the value of the field. -/
  inside : Padding := .never
  /-- What an object without the field is taken to say of it. -/
  implied : Option Json := none

/-- What a reader knows of a record: its fields in their order, no two of one name. -/
structure Format where
  slots : List Slot
  distinct : (slots.map Slot.key).Nodup := by decide

/-- One addition to a record that its reader passes over. -/
inductive Format.Pads (format : Format) : Json → Json → Prop
  /-- A key that is no field, anywhere in an object. -/
  | unknown (before after : List (String × Json)) {key : String} (j : Json)
    (h : ∀ slot ∈ format.slots, slot.key ≠ key) :
    Pads format (.object (before ++ after)) (.object (before ++ (key, j) :: after))
  /-- What an object without a field is taken to say. -/
  | implied (before after : List (String × Json)) {slot : Slot} {j : Json}
    (known : slot ∈ format.slots) (h : slot.implied = some j)
    (absent : lookup slot.key (before ++ after) = none) :
    Pads format (.object (before ++ after)) (.object (before ++ (slot.key, j) :: after))
  /-- An addition inside a field of an object. -/
  | named (before after : List (String × Json)) {slot : Slot} {j j' : Json}
    (known : slot ∈ format.slots) (h : slot.inside j j') :
    Pads format (.object (before ++ (slot.key, j) :: after))
      (.object (before ++ (slot.key, j') :: after))
  /-- An addition inside a field of a record that is written as an array. -/
  | placed (before after : List Json) {slot : Slot} {j j' : Json}
    (known : format.slots[before.length]? = some slot) (h : slot.inside j j') :
    Pads format (.array (before ++ j :: after)) (.array (before ++ j' :: after))

/-- What may be written into a record whichever of its forms it has. -/
def Padding.Each (formats : List Format) : Padding :=
  fun j j' => ∀ format ∈ formats, format.Pads j j'

/-- An object with the fields of the format in their order, of which only those are missing that
may be left out. -/
def Format.Spells (format : Format) (j : Json) : Prop :=
  ∃ entries, j = .object entries ∧
    (entries.map Prod.fst).Sublist (format.slots.map Slot.key) ∧
    ∀ slot ∈ format.slots, slot.implied = none → slot.key ∈ entries.map Prod.fst

/-- Nothing needs to be missing. -/
theorem Format.spells_of_keys {format : Format} {entries : List (String × Json)}
    (h : entries.map Prod.fst = format.slots.map Slot.key) : format.Spells (.object entries) := by
  refine ⟨entries, rfl, ?_, fun slot hslot _ => ?_⟩
  · rw [h]
  · rw [h]
    exact List.mem_map_of_mem hslot

/-! ## 3. Readers that padding does not move -/

/-- What is read is the same before and after. -/
def Unmoved {α : Type} (pads : Padding) (read : Json → Option α) : Prop :=
  ∀ ⦃j j'⦄, pads j j' → read j' = read j

section

variable {α : Type} {read : Json → Option α}

theorem unmoved_never : Unmoved .never read := fun _ _ h => h.elim

/-- A list is read alike if its items are. -/
theorem unmoved_list {inside : Padding} (h : Unmoved inside read) :
    Unmoved (.Items inside) (list? read) := by
  rintro _ _ ⟨before, after, hinside⟩
  simp only [list?, List.mapM_append, List.mapM_cons, h hinside]

/-- A record that may also be null is read alike if the record is: null is not padded. -/
theorem unmoved_nullable {format : Format} (h : Unmoved format.Pads read) :
    Unmoved format.Pads (nullable? read) := by
  intro j j' hpads
  have hread := h hpads
  cases hpads <;> rw [nullable?, nullable?, hread] <;> simp

theorem unmoved_singleton {format : Format} (h : Unmoved format.Pads read) :
    Unmoved (.Each [format]) read :=
  fun _ _ hpads => h (hpads format List.mem_cons_self)

/-- A record of several forms is read alike if its form is, and if it is read alike in each. -/
theorem unmoved_forms {ι : Type} {forms : List ι} (hforms : ∀ i, i ∈ forms) {format : ι → Format}
    {form? : Json → Option ι} {contents : ι → Json → Option α} (i : ι)
    (hform : Unmoved (format i).Pads form?)
    (hcontents : ∀ i, Unmoved (format i).Pads (contents i)) :
    Unmoved (.Each (forms.map format)) fun j => form? j >>= fun i => contents i j := by
  intro j j' hpads
  have hpads (i : ι) : (format i).Pads j j' := hpads _ (List.mem_map_of_mem (hforms i))
  simp only [hform (hpads i), fun i => hcontents i (hpads i)]

/-- Any number of additions and removals leaves alone what no single addition moves. -/
theorem unmoved_closure {pads : Padding} (h : Unmoved pads read) :
    Unmoved (Relation.EqvGen pads) read := by
  intro j j' hpads
  induction hpads with
  | rel _ _ hpads => exact h hpads
  | refl _ => rfl
  | symm _ _ _ ih => exact ih.symm
  | trans _ _ _ _ _ ih₁ ih₂ => exact ih₂.trans ih₁

end

/-! ## 4. Finding a field -/

theorem lookup_append (key : String) (before after : List (String × Json)) :
    lookup key (before ++ after) = (lookup key before).or (lookup key after) := by
  induction before with
  | nil => rfl
  | cons entry before ih =>
    rw [List.cons_append, lookup, lookup, ih]
    split <;> rfl

/-- What stands under one name does not matter to another. -/
theorem lookup_insert_of_ne {key other : String} (h : other ≠ key)
    (before after : List (String × Json)) (j : Json) :
    lookup key (before ++ (other, j) :: after) = lookup key (before ++ after) := by
  rw [lookup_append, lookup_append, lookup_cons_of_ne h]

/-- What an optional field is that is not there. -/
def Fields.unset {α : Type} : Fields → Option (Option α)
  | .named _ => some none
  | .placed _ => none

theorem Fields.optional_eq {α : Type} (f : Fields) (place : Nat) (key : String)
    (read : Json → Option α) :
    f.optional place key read = (f.find? place key).elim f.unset (nullable? read) := by
  cases f <;> cases h : Fields.find? _ place key <;> simp only [optional, h] <;> rfl

/-- What is found for a field before and after an addition. -/
inductive Slot.Found (slot : Slot) : Option Json → Option Json → Prop
  | same (found : Option Json) : Found slot found found
  | inside {j j' : Json} (h : slot.inside j j') : Found slot (some j) (some j')
  | implied {j : Json} (h : slot.implied = some j) : Found slot none (some j)

theorem Slot.Found.of_eq {slot : Slot} {found found' : Option Json} (h : found' = found) :
    slot.Found found found' := h ▸ .same found'

/-- The fields of a record before and after an addition. -/
inductive Format.PadsFields (format : Format) : Fields → Fields → Prop
  | named {entries entries' : List (String × Json)}
    (h : ∀ slot : Slot, slot ∈ format.slots →
      slot.Found (lookup slot.key entries) (lookup slot.key entries')) :
    PadsFields format (.named entries) (.named entries')
  | placed {items items' : List Json} (hlength : items'.length = items.length)
    (h : ∀ (place : Nat) (slot : Slot), format.slots[place]? = some slot →
      slot.Found items[place]? items'[place]?) :
    PadsFields format (.placed items) (.placed items')

namespace Format

variable {format : Format}

/-- Fields of one name are one field. -/
theorem eq_of_key {slot other : Slot} (hslot : slot ∈ format.slots)
    (hother : other ∈ format.slots) (h : slot.key = other.key) : slot = other :=
  List.inj_on_of_nodup_map format.distinct hslot hother h

/-- **An addition to a record shows in its fields as an addition to one field at most**, and the
record stays one of its size. -/
theorem Pads.fields? {j j' : Json} (h : format.Pads j j') (size : Nat) :
    (j.fields? size = none ∧ j'.fields? size = none) ∨
      ∃ f f', j.fields? size = some f ∧ j'.fields? size = some f' ∧ format.PadsFields f f' := by
  cases h with
  | @unknown before after key j hnew =>
    -- No field has the name of the new key.
    refine .inr ⟨_, _, rfl, rfl, .named fun slot hslot => .of_eq ?_⟩
    exact lookup_insert_of_ne (hnew slot hslot).symm before after j
  | @implied before after slot j hslot himplied habsent =>
    refine .inr ⟨_, _, rfl, rfl, .named fun other hother => ?_⟩
    by_cases hkey : slot.key = other.key
    · obtain rfl := eq_of_key hslot hother hkey
      -- There was no value of this name, so the new one is found.
      obtain ⟨hbefore, -⟩ := Option.or_eq_none_iff.mp (lookup_append .. ▸ habsent)
      rw [habsent, lookup_append, hbefore, lookup_cons_self]
      exact .implied himplied
    · exact .of_eq (lookup_insert_of_ne hkey before after j)
  | @named before after slot j j' hslot hinside =>
    refine .inr ⟨_, _, rfl, rfl, .named fun other hother => ?_⟩
    by_cases hkey : slot.key = other.key
    · obtain rfl := eq_of_key hslot hother hkey
      rw [lookup_append, lookup_append, lookup_cons_self, lookup_cons_self]
      -- An earlier value of the same name is the one that counts.
      cases lookup slot.key before with
      | none => exact .inside hinside
      | some earlier => exact .same (some earlier)
    · rw [lookup_insert_of_ne hkey, lookup_insert_of_ne hkey]
      exact .same _
  | @placed before after slot j j' hslot hinside =>
    have hlength : (before ++ j' :: after).length = (before ++ j :: after).length := by simp
    rw [Json.fields?, Json.fields?, hlength]
    split
    · refine .inr ⟨_, _, rfl, rfl, .placed hlength fun place other hother => ?_⟩
      by_cases hplace : place = before.length
      · subst hplace
        obtain rfl := Option.some.inj (hslot.symm.trans hother)
        simpa using Slot.Found.inside hinside
      · exact .of_eq (by grind)
    · exact .inl ⟨rfl, rfl⟩

/-- A record is read alike if its fields are. -/
theorem unmoved_record {α : Type} {size : Nat} {read : Fields → Option α}
    (h : ∀ ⦃f f'⦄, format.PadsFields f f' → read f' = read f) :
    Unmoved format.Pads fun j => j.fields? size >>= read := by
  intro j j' hpads
  obtain ⟨hj, hj'⟩ | ⟨f, f', hj, hj', hfields⟩ := hpads.fields? size
  · simp only [hj, hj']
  · simp only [hj, hj']
    exact h hfields

end Format

/-! ## 5. The rules for a field -/

namespace Format.PadsFields

variable {format : Format} {f f' : Fields} {inside : Padding} {α : Type}

theorem find? {place : Nat} {key : String} {implied : Option Json} (h : format.PadsFields f f')
    (hslot : format.slots[place]? = some ⟨key, inside, implied⟩) :
    Slot.Found ⟨key, inside, implied⟩ (f.find? place key) (f'.find? place key) := by
  cases h with
  | named h => exact h _ (List.mem_of_getElem? hslot)
  | placed _ h => exact h place _ hslot

/-- A field that has to be there is read as it was: it is not one that may be written out. -/
theorem required (h : format.PadsFields f f') (place : Nat) (key : String)
    (read : Json → Option α)
    (hslot : format.slots[place]? = some ⟨key, inside, none⟩) (hread : Unmoved inside read) :
    f'.required place key read = f.required place key read := by
  have hfound := h.find? hslot
  rw [Fields.required, Fields.required]
  generalize f.find? place key = found, f'.find? place key = found' at hfound
  cases hfound with
  | same => rfl
  | inside hinside => exact hread hinside
  | implied himplied => cases himplied

/-- A field with a default is read as it was, if what may be written out is the default. -/
theorem defaulted (h : format.PadsFields f f') (place : Nat) (key : String) (default : α)
    (read : Json → Option α) {j : Json}
    (hslot : format.slots[place]? = some ⟨key, inside, some j⟩) (hread : Unmoved inside read)
    (hdefault : read j = some default) :
    f'.defaulted place key default read = f.defaulted place key default read := by
  have hfound := h.find? hslot
  rw [Fields.defaulted, Fields.defaulted]
  generalize f.find? place key = found, f'.find? place key = found' at hfound
  cases hfound with
  | same => rfl
  | inside hinside => exact hread hinside
  | implied himplied =>
    obtain rfl := Option.some.inj himplied
    exact hdefault

/-- A field that may be unset is read as it was, if what may be written out is null. -/
theorem optional (h : format.PadsFields f f') (place : Nat) (key : String)
    (read : Json → Option α)
    (hslot : format.slots[place]? = some ⟨key, inside, some .null⟩)
    (hread : Unmoved inside (nullable? read)) :
    f'.optional place key read = f.optional place key read := by
  have hfound := h.find? hslot
  rw [Fields.optional_eq, Fields.optional_eq]
  generalize hf : f.find? place key = found, hf' : f'.find? place key = found' at hfound
  cases hfound with
  | same => cases h <;> rfl
  | inside hinside => exact hread hinside
  | implied himplied =>
    obtain rfl := Option.some.inj himplied
    cases h with
    | named _ => rfl
    | placed hlength _ =>
      -- An array has as many items as before, so what was not there is still not there.
      have hshort := List.getElem?_eq_none_iff.mp hf
      have hlong := (List.getElem?_eq_some_iff.mp hf').1
      omega

end Format.PadsFields

/-! ## 6. Readers and writers -/

/-- A reader takes back what a writer gives, and both keep to a format: to one of several, if
records of different forms are read and written. -/
structure RoundTrips {α : Type} (read : Json → Option α) (write : α → Json)
    (formats : List Format) : Prop where
  /-- What is written follows a format. -/
  spelled : ∀ v, ∃ format ∈ formats, format.Spells (write v)
  /-- What is written is read back. -/
  back : ∀ v, read (write v) = some v
  /-- Two ways to write the same, one padded more than the other, read alike. -/
  unmoved : Unmoved (Relation.EqvGen (Padding.Each formats)) read
  /-- Whatever is read stays what it is when it is written and read again. -/
  settles : ∀ ⦃j v⦄, read j = some v → read (write v) = some v

namespace RoundTrips

variable {α : Type} {read : Json → Option α} {write : α → Json}

/-- It is enough that what is written follows the format and is read back, and that no single
addition shows. -/
theorem of {format : Format} (spelled : ∀ v, format.Spells (write v))
    (back : ∀ v, read (write v) = some v) (unmoved : Unmoved format.Pads read) :
    RoundTrips read write [format] where
  spelled v := ⟨format, List.mem_cons_self, spelled v⟩
  back := back
  unmoved := unmoved_closure (unmoved_singleton unmoved)
  settles _ v _ := back v

theorem of_forms {ι : Type} {forms : List ι} (hforms : ∀ i, i ∈ forms) {format : ι → Format}
    (spelled : ∀ v, ∃ i, (format i).Spells (write v)) (back : ∀ v, read (write v) = some v)
    (unmoved : Unmoved (.Each (forms.map format)) read) :
    RoundTrips read write (forms.map format) where
  spelled v := by
    obtain ⟨i, hi⟩ := spelled v
    exact ⟨format i, List.mem_map_of_mem (hforms i), hi⟩
  back := back
  unmoved := unmoved_closure unmoved
  settles _ v _ := back v

end RoundTrips

end Settle.Json
