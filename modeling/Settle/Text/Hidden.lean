/-
Characters with no shape of their own.

Quoted text shows a character as itself only where a reader would see it and see
it apart from its neighbours. The ones that would vanish are the controls and
format marks, the separators and blanks other than the plain space, the fillers
that stand for a missing letter, the private-use areas and the code points that
stand for nothing; the combining marks would attach themselves to the character
before them, even to the quote. Version 17 of the character standard.
-/
import Settle.Text.Combining
import Settle.Text.Unassigned

set_option autoImplicit false

namespace Settle.Text

/-- The controls, format marks, blanks, separators, fillers and private-use areas, without the plain
space. -/
def invisibleRanges : Ranges := [
  (0x0000, 0x001f), (0x007f, 0x00a0), (0x00ad, 0x00ad), (0x0600, 0x0605), (0x061c, 0x061c),
  (0x06dd, 0x06dd), (0x070f, 0x070f), (0x0890, 0x0891), (0x08e2, 0x08e2), (0x115f, 0x1160),
  (0x1680, 0x1680), (0x180e, 0x180e), (0x2000, 0x200f), (0x2028, 0x202f), (0x205f, 0x2064),
  (0x2066, 0x206f), (0x3000, 0x3000), (0x3164, 0x3164), (0xe000, 0xf8ff), (0xfeff, 0xfeff),
  (0xffa0, 0xffa0), (0xfff9, 0xfffb), (0x110bd, 0x110bd), (0x110cd, 0x110cd),
  (0x13430, 0x1343f), (0x1bca0, 0x1bca3), (0x1d173, 0x1d17a), (0xe0001, 0xe0001),
  (0xe0020, 0xe007f), (0xf0000, 0xffffd), (0x100000, 0x10fffd)]

/-- Whether a character would not show by itself. -/
def isHidden (c : Char) : Bool :=
  invisibleRanges.covers c || combiningRanges.covers c || unassignedRanges.covers c

end Settle.Text
