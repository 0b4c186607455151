/-
Writing JSON.

One line, no blanks. Real numbers always have a fraction or an exponent, so that
they read back as reals; those that are no numbers are written as null.
-/
import Settle.Json
import Settle.Decimal.Shortest

set_option autoImplicit false

namespace Settle.Json

/-- A character inside a JSON text. -/
def escaped (c : Char) : List Char :=
  match c with
  | '"' => ['\\', '"']
  | '\\' => ['\\', '\\']
  | '\n' => ['\\', 'n']
  | '\r' => ['\\', 'r']
  | '\t' => ['\\', 't']
  | c =>
    if c.toNat < 0x20 then
      let digits := Nat.toDigits 16 c.toNat
      ['\\', 'u'] ++ List.replicate (4 - digits.length) '0' ++ digits
    else [c]

/-- Writes a text between quotes. -/
def writeString (out : String) (s : String) : String :=
  (s.foldl (fun acc c => (escaped c).foldl String.push acc) (out.push '"')).push '"'

/-- A real number, or null where the text of a number cannot stand for it. -/
def realText (x : Float) : String :=
  if x.isNaN || x.isInf then "null" else Decimal.textOfBits x.toBits.toNat

mutual

/-- Writes a value behind what is written so far. -/
def write (out : String) : Json → String
  | .null => out ++ "null"
  | .bool b => out ++ if b then "true" else "false"
  | .integer n => out ++ toString n
  | .real x => out ++ realText x
  | .string s => writeString out s
  | .array items => (writeItems (out.push '[') true items).push ']'
  | .object fields => (writeFields (out.push '\x7b') true fields).push '\x7d'

/-- Writes the items of an array; all but the first have a comma before them. -/
def writeItems (out : String) (first : Bool) : List Json → String
  | [] => out
  | j :: rest => writeItems (write (if first then out else out.push ',') j) false rest

/-- Writes the fields of an object, commas as in an array. -/
def writeFields (out : String) (first : Bool) : List (String × Json) → String
  | [] => out
  | (k, j) :: rest =>
    let out := (writeString (if first then out else out.push ',') k).push ':'
    writeFields (write out j) false rest

end

/-- The text of a value. -/
def text (j : Json) : String := write "" j

end Settle.Json
