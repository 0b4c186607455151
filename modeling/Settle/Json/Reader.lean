/-
Reading JSON.

The reader takes a text by its grammar and nothing more: no comments, no trailing
comma, no leading zero. A whole number is one written without fraction and
exponent that fits 64 bits; every other number is real, and one that is too large
for that is refused. When a name stands twice in an object its last value counts.
Arrays and objects are nested to a limited depth.

Nested values are read by mutual recursion on a fuel that the length of the text
bounds: every step of the recursion consumes a character.
-/
import Settle.Decimal.Scaled
import Settle.Json

set_option autoImplicit false

namespace Settle.Json

/-- What is left of a text, with what was read from it. -/
abbrev Read (α : Type) := List Char → Option (α × List Char)

/-- What follows the blanks at the start of a text. -/
def skipBlank (s : List Char) : List Char :=
  s.dropWhile fun c => c = ' ' || c = '\n' || c = '\t' || c = '\r'

/-- The value of a hexadecimal digit. -/
def hexValue (c : Char) : Option Nat :=
  if '0' ≤ c ∧ c ≤ '9' then some (c.toNat - '0'.toNat)
  else if 'a' ≤ c ∧ c ≤ 'f' then some (c.toNat - 'a'.toNat + 10)
  else if 'A' ≤ c ∧ c ≤ 'F' then some (c.toNat - 'A'.toNat + 10)
  else none

/-- Four hexadecimal digits. -/
def readHex : Read Nat
  | a :: b :: c :: d :: rest => do
    let high := (← hexValue a) * 16 + (← hexValue b)
    let low := (← hexValue c) * 16 + (← hexValue d)
    return (high * 256 + low, rest)
  | _ => none

/-- The character that a backslash and what follows it stand for. Characters beyond the first plane
are written as two halves. -/
def readEscape : Read Char
  | '"' :: rest => some ('"', rest)
  | '\\' :: rest => some ('\\', rest)
  | '/' :: rest => some ('/', rest)
  | 'b' :: rest => some ('\x08', rest)
  | 'f' :: rest => some ('\x0c', rest)
  | 'n' :: rest => some ('\n', rest)
  | 'r' :: rest => some ('\r', rest)
  | 't' :: rest => some ('\t', rest)
  | 'u' :: rest => do
    let (high, rest) ← readHex rest
    if 0xdc00 ≤ high ∧ high < 0xe000 then none
    else if 0xd800 ≤ high ∧ high < 0xdc00 then
      match rest with
      | '\\' :: 'u' :: rest => do
        let (low, rest) ← readHex rest
        if 0xdc00 ≤ low ∧ low < 0xe000 then
          return (Char.ofNat (0x10000 + (high - 0xd800) * 0x400 + (low - 0xdc00)), rest)
        else none
      | _ => none
    else return (Char.ofNat high, rest)
  | _ => none

/-- The rest of a text up to its closing quote, read onto what it holds already. -/
def readStringOnto : Nat → String → Read String
  | 0, _, _ => none
  | _ + 1, _, [] => none
  | _ + 1, acc, '"' :: rest => some (acc, rest)
  | fuel + 1, acc, '\\' :: rest => do
    let (c, rest) ← readEscape rest
    readStringOnto fuel (acc.push c) rest
  | fuel + 1, acc, c :: rest =>
    if c.toNat < 0x20 then none else readStringOnto fuel (acc.push c) rest

/-- The value of decimal digits. -/
def digitsValue (digits : List Char) : Nat :=
  digits.foldl (fun n c => n * 10 + (c.toNat - '0'.toNat)) 0

/-- Whole numbers are below this. -/
def wholeLimit : Nat := 18446744073709551616

/-- The size of the largest whole number with a minus sign. -/
def largestBelowZero : Nat := 9223372036854775808

/-- The digits of an exponent with their sign, or none if there is no exponent. -/
def readExponent : Read (Option Int)
  | c :: rest =>
    if c = 'e' ∨ c = 'E' then
      let (negative, rest) := match rest with
        | '+' :: rest => (false, rest)
        | '-' :: rest => (true, rest)
        | rest => (false, rest)
      let digits := rest.takeWhile Char.isDigit
      if digits.isEmpty then none
      else
        let value : Int := digitsValue digits
        some (some (if negative then -value else value), rest.dropWhile Char.isDigit)
    else some (none, c :: rest)
  | [] => some (none, [])

/-- The digits behind a point, or none if there is no point. -/
def readFraction : Read (Option (List Char))
  | '.' :: rest =>
    let digits := rest.takeWhile Char.isDigit
    if digits.isEmpty then none else some (some digits, rest.dropWhile Char.isDigit)
  | rest => some (none, rest)

/-- A number: a minus sign at most, digits without a leading zero, a fraction, an exponent. -/
def readNumber (s : List Char) : Option (Json × List Char) := do
  let (negative, rest) := match s with
    | '-' :: rest => (true, rest)
    | rest => (false, rest)
  let whole := rest.takeWhile Char.isDigit
  guard (!whole.isEmpty)
  guard (whole.head? ≠ some '0' ∨ whole.length = 1)
  let (fraction, rest) ← readFraction (rest.dropWhile Char.isDigit)
  let (exponent, rest) ← readExponent rest
  let integer : Option Int :=
    if fraction.isSome ∨ exponent.isSome then none
    else
      let n := digitsValue whole
      if negative then if 0 < n ∧ n ≤ largestBelowZero then some (-n) else none
      else if n < wholeLimit then some n else none
  match integer with
  | some n => return (.integer n, rest)
  | none =>
    let (significand, shift) := Decimal.significand whole (fraction.getD [])
    let x ← Decimal.scaled significand (exponent.getD 0 + shift)
    return (.real (if negative then -x else x), rest)

/-- Puts a named value behind the others, or in the place of one with its name. -/
def setField (key : String) (value : Json) : List (String × Json) → List (String × Json)
  | [] => [(key, value)]
  | (k, v) :: rest => if k = key then (k, value) :: rest else (k, v) :: setField key value rest

/-- How deep arrays and objects may be nested in each other. -/
def nestingLimit : Nat := 127

mutual

/-- A value after blanks, with as many levels of arrays and objects as `depth` allows. -/
def readValue : Nat → Nat → Read Json
  | 0, _, _ => none
  | fuel + 1, depth, s =>
    match skipBlank s with
    | 'n' :: 'u' :: 'l' :: 'l' :: rest => some (.null, rest)
    | 't' :: 'r' :: 'u' :: 'e' :: rest => some (.bool true, rest)
    | 'f' :: 'a' :: 'l' :: 's' :: 'e' :: rest => some (.bool false, rest)
    | '"' :: rest => do
      let (text, rest) ← readStringOnto (rest.length + 1) "" rest
      return (.string text, rest)
    | '[' :: rest => do
      guard (0 < depth)
      match skipBlank rest with
      | ']' :: rest => return (.array [], rest)
      | rest => do
        let (items, rest) ← readItems fuel (depth - 1) rest
        return (.array items, rest)
    | '\x7b' :: rest => do
      guard (0 < depth)
      match skipBlank rest with
      | '\x7d' :: rest => return (.object [], rest)
      | rest => do
        let (fields, rest) ← readFields fuel (depth - 1) [] rest
        return (.object fields, rest)
    | rest => readNumber rest

/-- The items of an array up to its closing bracket. -/
def readItems : Nat → Nat → Read (List Json)
  | 0, _, _ => none
  | fuel + 1, depth, s => do
    let (item, rest) ← readValue fuel depth s
    match skipBlank rest with
    | ']' :: rest => return ([item], rest)
    | ',' :: rest =>
      let (items, rest) ← readItems fuel depth rest
      return (item :: items, rest)
    | _ => none

/-- The fields of an object up to its closing brace, read onto those before them. -/
def readFields : Nat → Nat → List (String × Json) → Read (List (String × Json))
  | 0, _, _, _ => none
  | fuel + 1, depth, before, s =>
    match skipBlank s with
    | '"' :: rest => do
      let (key, rest) ← readStringOnto (rest.length + 1) "" rest
      match skipBlank rest with
      | ':' :: rest =>
        let (value, rest) ← readValue fuel depth rest
        let fields := setField key value before
        match skipBlank rest with
        | '\x7d' :: rest => return (fields, rest)
        | ',' :: rest => readFields fuel depth fields rest
        | _ => none
      | _ => none
    | _ => none

end

/-- The value a whole text stands for. -/
def ofText? (s : String) : Option Json := do
  let chars := s.toList
  let (value, rest) ← readValue (chars.length + 1) nestingLimit chars
  guard (skipBlank rest).isEmpty
  return value

end Settle.Json
