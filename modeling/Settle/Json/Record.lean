/-
Records and tags in JSON.

A record is written as an object with its fields by name, whatever else the
object holds, or as an array with its fields in order and no more of them. How a
field may be absent is part of its format: some have to be there, some have a
default, and some are simply unset when an object leaves them out.

A tag is one of finitely many names. Inside a record that has a tag of its own to
say which of several it is, tags are read with less care.
-/
import Settle.Json

set_option autoImplicit false

namespace Settle.Json

/-- The fields of a record as they are written. -/
inductive Fields where
  | named (fields : List (String × Json))
  | placed (items : List Json)

/-- The fields of a record that has `size` of them. -/
def fields? (size : Nat) : Json → Option Fields
  | .object fields => some (.named fields)
  | .array items => if items.length ≤ size then some (.placed items) else none
  | _ => none

namespace Fields

/-- What is written for the field with a place and a name. -/
def find? : Fields → Nat → String → Option Json
  | .named fields, _, key => lookup key fields
  | .placed items, place, _ => items[place]?

variable {α : Type}

/-- A field that has to be there. -/
def required (f : Fields) (place : Nat) (key : String) (read : Json → Option α) : Option α :=
  (f.find? place key).bind read

/-- A field with a default for when it is not there. -/
def defaulted (f : Fields) (place : Nat) (key : String) (default : α) (read : Json → Option α) :
    Option α :=
  match f.find? place key with
  | some j => read j
  | none => some default

/-- A field that may be unset: null, or left out of an object. -/
def optional (f : Fields) (place : Nat) (key : String) (read : Json → Option α) :
    Option (Option α) :=
  match f, f.find? place key with
  | _, some j => nullable? read j
  | .named _, none => some none
  | .placed _, none => none

end Fields

/-- Null, which stands for nothing. -/
def isNull : Json → Bool
  | .null => true
  | _ => false

/-- Null or an object without fields. -/
def isVacant : Json → Bool
  | .null | .object [] => true
  | _ => false

/-- One of finitely many values by its name. The name stands by itself, or as the one key of an
object with something that counts as nothing. -/
def tagWith? (nothing : Json → Bool) {α : Type} (all : List α) (name : α → String) :
    Json → Option α
  | .string s => all.find? (name · == s)
  | .object [(s, j)] => if nothing j then all.find? (name · == s) else none
  | _ => none

/-- One of finitely many values by its name, with which only null can stand. -/
def tag? {α : Type} : List α → (α → String) → Json → Option α := tagWith? isNull

/-- One of finitely many values by its name, with which null or an object without fields can
stand. -/
def innerTag? {α : Type} : List α → (α → String) → Json → Option α := tagWith? isVacant

/-- Named values without those that are unset. -/
def objectOf (fields : List (String × Option Json)) : Json :=
  .object (fields.filterMap fun (key, value) => value.map (key, ·))

end Settle.Json
