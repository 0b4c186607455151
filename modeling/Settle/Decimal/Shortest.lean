/-
The fewest digits that read back.

A binary floating-point number stands for every real number that rounds to it.
Among the decimals of that interval this file finds one with the fewest digits,
and of those the nearest. All arithmetic is exact, on natural numbers.
-/
set_option autoImplicit false

namespace Settle.Decimal

/-- A positive binary number `mantissa * 2 ^ exponent` with the neighbours that bound what rounds
to it. In units of a quarter of the last place the lower bound is two below the number, or one
below it right above a power of two, and the upper bound is two above it. -/
structure Binary where
  mantissa : Nat
  exponent : Int
  /-- Whether the number below is only half as far away as the number above. -/
  narrowBelow : Bool

/-- A decimal `digits * 10 ^ exponent`. -/
structure Digits where
  digits : Nat
  exponent : Int

/-- The mantissas of a double that share an exponent: two to the power of 52. -/
def fractions : Nat := 4503599627370496

/-- The weight of a double's sign bit: two to the power of 63. -/
def signBit : Nat := 9223372036854775808

/-- The parts of a positive double, from its bits without the sign. -/
def Binary.ofBits (bits : Nat) : Binary :=
  let fraction : Nat := bits % fractions
  let scale : Nat := bits / fractions
  if scale = 0 then ⟨fraction, -1074, false⟩
  else ⟨fractions + fraction, (scale : Int) - 1075, fraction == 0 && scale != 1⟩

/-- `n * 2 ^ e` as a fraction of natural numbers. -/
def powerOfTwo (n : Nat) (e : Int) : Nat × Nat :=
  if 0 ≤ e then (n * Nat.pow 2 e.toNat, 1) else (n, Nat.pow 2 (-e).toNat)

/-- The interval that rounds to a number, over one denominator. -/
structure Interval where
  low : Nat
  value : Nat
  high : Nat
  denominator : Nat
  /-- Whether the two ends round to the number as well: ties go to the even mantissa. -/
  closed : Bool

/-- The reals that round to a number, in quarters of its last place. -/
def Binary.interval (b : Binary) : Interval :=
  let (unit, denominator) := powerOfTwo 1 (b.exponent - 2)
  { low := (4 * b.mantissa - if b.narrowBelow then 1 else 2) * unit
    value := 4 * b.mantissa * unit
    high := (4 * b.mantissa + 2) * unit
    denominator
    closed := b.mantissa % 2 == 0 }

/-- The power of ten above a fraction: the least `e` in reach with `n / d < 10 ^ e`. -/
def magnitude (n d : Nat) : Int :=
  let above := n / d
  if above ≠ 0 then (Nat.toDigits 10 above).length
  else
    let inverse := (d - 1) / n
    1 - (Nat.toDigits 10 inverse).length

/-- The point of the grid `10 ^ exponent` that lies in the interval and nearest to its value, of
the two points on either side of the value. On a tie the even one is taken. -/
def Interval.pointOn (i : Interval) (exponent : Int) : Option Nat :=
  let (up, down) :=
    if 0 ≤ exponent then (1, Nat.pow 10 exponent.toNat) else (Nat.pow 10 (-exponent).toNat, 1)
  let step := down * i.denominator
  let below := i.value * up / step
  let above := below + 1
  let inside (p : Nat) : Bool :=
    if i.closed then i.low * up ≤ p * step && p * step ≤ i.high * up
    else i.low * up < p * step && p * step < i.high * up
  let toBelow := i.value * up - below * step
  let toAbove := above * step - i.value * up
  match decide (below ≠ 0) && inside below, inside above with
  | true, true =>
    if toBelow < toAbove ∨ (toBelow = toAbove ∧ below % 2 = 0) then some below else some above
  | true, false => some below
  | false, true => some above
  | false, false => none

/-- Tries grids from coarse to fine, at most `fuel` of them. -/
def Interval.firstPoint (i : Interval) : Nat → Int → Digits
  | 0, exponent => ⟨i.value * Nat.pow 10 (-exponent).toNat / i.denominator, exponent⟩
  | fuel + 1, exponent =>
    match i.pointOn exponent with
    | some p => ⟨p, exponent⟩
    | none => i.firstPoint fuel (exponent - 1)

/-- The shortest decimal that reads back as a positive double; seventeen digits always do. -/
def shortest (b : Binary) : Digits :=
  let i := b.interval
  i.firstPoint 17 (magnitude i.value i.denominator - 1)

/-- Digits without the zeros at their end. -/
def Digits.stripped (d : Digits) : Digits :=
  let rec strip : Nat → Nat → Int → Digits
    | 0, n, e => ⟨n, e⟩
    | fuel + 1, n, e => if n ≠ 0 ∧ n % 10 = 0 then strip fuel (n / 10) (e + 1) else ⟨n, e⟩
  strip 20 d.digits d.exponent

/-- Writes a positive decimal with a point, or in scientific form when the point would lie more
than sixteen places to the right or more than five to the left of the first digit. -/
def Digits.text (d : Digits) : String :=
  let digits := Nat.toDigits 10 d.digits
  let point : Int := digits.length + d.exponent
  let zeros (n : Int) : List Char := List.replicate n.toNat '0'
  let body :=
    if 0 ≤ d.exponent ∧ point ≤ 16 then digits ++ zeros d.exponent ++ ['.', '0']
    else if 0 < point ∧ point ≤ 16 then digits.take point.toNat ++ '.' :: digits.drop point.toNat
    else if -5 < point ∧ point ≤ 0 then '0' :: '.' :: zeros (-point) ++ digits
    else
      let exponent := (toString (point - 1)).toList
      match digits with
      | [only] => only :: 'e' :: exponent
      | first :: rest => first :: '.' :: rest ++ 'e' :: exponent
      | [] => ['0']
  String.ofList body

/-- The text of a finite double. -/
def textOfBits (bits : Nat) : String :=
  let sign := if signBit ≤ bits then "-" else ""
  let size := bits % signBit
  sign ++ if size = 0 then "0.0" else (shortest (.ofBits size)).stripped.text

end Settle.Decimal
