/-
Reading a decimal in two roundings.

A decimal is taken as a whole number times a power of ten. The whole number is
made of the leading digits, as many as 64 bits hold; the others only count for
the size. It becomes a double, and the double is multiplied or divided by the
power of ten. The digits are rounded once and the product once more, so the
result can be a little off the nearest double; a decimal of at most fifteen
digits and a small power, where both parts are exact, is always read to the
nearest.
-/
set_option autoImplicit false

namespace Settle.Decimal

/-- Significands are below this: they have 64 bits. -/
def significandLimit : Nat := 18446744073709551616

/-- Takes digits onto a significand until the next one would not fit. The digits left over come
second. -/
def absorb : Nat → List Char → Nat × List Char
  | significand, [] => (significand, [])
  | significand, c :: rest =>
    let next := significand * 10 + (c.toNat - '0'.toNat)
    if next < significandLimit then absorb next rest else (significand, c :: rest)

/-- The significand of the digits before and behind a point, and the power of ten that goes with it.
Digits left over before the point make the number larger, digits taken from behind it smaller. -/
def significand (whole places : List Char) : Nat × Int :=
  let (n, dropped) := absorb 0 whole
  let (n, left) := absorb n places
  (n, (dropped.length : Int) - (places.length - left.length : Nat))

/-- The largest power of ten in the range of a double. -/
def largestPower : Nat := 308

/-- The double nearest to a power of ten. -/
def power (k : Nat) : Float := .ofScientific 1 false k

/-- A double times a power of ten, unless that is out of range. -/
def raised (x : Float) (k : Nat) : Option Float :=
  if largestPower < k then
    if x == 0 then some x else none
  else
    let y := x * power k
    if y.isInf then none else some y

/-- A double divided by a power of ten, by the largest one first while the divisor is larger. -/
def lowered (x : Float) (k : Nat) : Float :=
  if k ≤ largestPower then x / power k
  else if x == 0 then x
  else lowered (x / power largestPower) (k - largestPower)
termination_by k
decreasing_by simp only [largestPower] at *; omega

/-- The double that stands for `significand * 10 ^ exponent`, unless that is out of range. -/
def scaled (significand : Nat) (exponent : Int) : Option Float :=
  let x : Float := .ofScientific significand false 0
  if 0 ≤ exponent then raised x exponent.toNat else some (lowered x (-exponent).toNat)

end Settle.Decimal
