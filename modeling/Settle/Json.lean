/-
JSON values.

Whole numbers and real numbers are kept apart, since a count may not be written
with a fraction. An object is a list of named values in the order in which they
are written; a reader takes the first value with a name, and the text reader
leaves one per name.
-/
set_option autoImplicit false

namespace Settle

/-- A JSON value. -/
inductive Json where
  | null
  | bool (b : Bool)
  | integer (n : Int)
  | real (x : Float)
  | string (s : String)
  | array (items : List Json)
  | object (fields : List (String × Json))
  deriving Inhabited

namespace Json

/-- The value with a name among named values. -/
def lookup (key : String) : List (String × Json) → Option Json
  | [] => none
  | (k, v) :: rest => if k = key then some v else lookup key rest

/-- The value with a name, if there is an object to look in. -/
def get? : Json → String → Option Json
  | .object fields, key => lookup key fields
  | _, _ => none

/-- A text. -/
def string? : Json → Option String
  | .string s => some s
  | _ => none

/-- A truth value. -/
def bool? : Json → Option Bool
  | .bool b => some b
  | _ => none

/-- The items of an array. -/
def array? : Json → Option (List Json)
  | .array items => some items
  | _ => none

/-- A whole number of 64 bits with a sign. -/
def int64? : Json → Option Int64
  | .integer n =>
    if Int64.minValue.toInt ≤ n ∧ n ≤ Int64.maxValue.toInt then some (.ofInt n) else none
  | _ => none

/-- A whole number of 64 bits as it is written. -/
def ofInt64 (n : Int64) : Json := .integer n.toInt

/-- A whole number from zero up to, but without, a limit. -/
def below? (limit : Nat) : Json → Option Nat
  | .integer (.ofNat n) => if n < limit then some n else none
  | _ => none

/-- A number of any form. -/
def number? : Json → Option Float
  | .integer n => some (.ofInt n)
  | .real x => some x
  | _ => none

/-- A value that may also be null. -/
def nullable? {α : Type} (read : Json → Option α) : Json → Option (Option α)
  | .null => some none
  | j => (read j).map some

/-- No value at all: only null is left where this may also be null. -/
def nothing? : Json → Option Empty := fun _ => none

/-- A list, every item of which is read alike. -/
def list? {α : Type} (read : Json → Option α) : Json → Option (List α)
  | .array items => items.mapM read
  | _ => none

/-- An optional text, written as null when there is none. -/
def ofOption {α : Type} (write : α → Json) : Option α → Json
  | none => .null
  | some a => write a

end Json

end Settle
