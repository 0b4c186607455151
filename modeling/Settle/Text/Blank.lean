/-
Blank space around a text.

Values from an environment are read without the blanks around them. Blank means
white space in the sense of the character standard, which is wider than ASCII:
it has the line separators, the typographic spaces and the ideographic one.
-/
set_option autoImplicit false

namespace Settle.Text

/-- Whether a character is white space in the character standard. -/
def isBlank (c : Char) : Bool :=
  let n := c.toNat
  (0x09 ≤ n && n ≤ 0x0d) || n == 0x20 || n == 0x85 || n == 0xa0 || n == 0x1680
    || (0x2000 ≤ n && n ≤ 0x200a) || n == 0x2028 || n == 0x2029 || n == 0x202f || n == 0x205f
    || n == 0x3000

/-- A text without the blanks at its two ends. -/
def trimmed (s : List Char) : List Char :=
  ((s.dropWhile isBlank).reverse.dropWhile isBlank).reverse

end Settle.Text
