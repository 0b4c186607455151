/-
Quoted text.

A text that is named inside a message stands between double quotes, with what
would break the quotes or not show at all written as an escape. Every character
has one written form, so two texts that differ are quoted differently.
-/
import Settle.Text.Hidden

set_option autoImplicit false

namespace Settle.Text

/-- A character inside quotes. The quote and the backslash are escaped, four controls have letters
of their own, and what has no shape is given by its code point in hexadecimal. -/
def quotedChar (c : Char) : List Char :=
  match c with
  | '"' => ['\\', '"']
  | '\\' => ['\\', '\\']
  | '\t' => ['\\', 't']
  | '\n' => ['\\', 'n']
  | '\r' => ['\\', 'r']
  | '\x00' => ['\\', '0']
  | c => if isHidden c then ['\\', 'u', '\x7b'] ++ Nat.toDigits 16 c.toNat ++ ['\x7d'] else [c]

/-- A text between double quotes. -/
def quoted (s : String) : String :=
  String.ofList ('"' :: (s.toList.flatMap quotedChar ++ ['"']))

end Settle.Text
