/-
Counts in decimal.

A count is written as decimal digits with at most one plus sign before them, and
has to stay below a limit. The reader goes from left to right and reports the
first thing that is wrong: a bad character hides an overflow behind it, and an
overflow hides a bad character behind it.
-/
set_option autoImplicit false

namespace Settle.Text

/-- What is wrong with a count. -/
inductive CountDefect where
  | empty
  | badDigit
  | tooLarge
  deriving DecidableEq

/-- How a message names the defect. -/
def CountDefect.message : CountDefect → String
  | .empty => "cannot parse integer from empty string"
  | .badDigit => "invalid digit found in string"
  | .tooLarge => "number too large to fit in target type"

/-- Reads digits onto the value read so far. -/
def countFrom (limit : Nat) : Nat → List Char → Except CountDefect Nat
  | value, [] => .ok value
  | value, c :: rest =>
    if c.isDigit then
      let next := value * 10 + (c.toNat - '0'.toNat)
      if next < limit then countFrom limit next rest else .error .tooLarge
    else .error .badDigit

/-- Reads a count below `limit`. A sign with nothing behind it is a bad character. -/
def count (limit : Nat) : List Char → Except CountDefect Nat
  | [] => .error .empty
  | ['+'] => .error .badDigit
  | '+' :: rest => countFrom limit 0 rest
  | digits => countFrom limit 0 digits

end Settle.Text
