/-
Phrases in a message: `message_indicates_not_found`.

Some endpoints say that a resource is missing only in the prose of their error.
The search goes over the message in lower case and looks for any of a few fixed
phrases at any place.
-/
import Settle.Text.Lowercase

set_option autoImplicit false

namespace Settle.Text

/-- Whether `phrase` stands somewhere in `text`. -/
def mentions (phrase : List Char) : List Char → Bool
  | [] => phrase.isEmpty
  | c :: rest => phrase.isPrefixOf (c :: rest) || mentions phrase rest

/-- `NOT_FOUND_PHRASES`: the phrases that report a missing resource. -/
def absencePhrases : List String := ["not found", "does not exist", "notfound"]

/-- `message_indicates_not_found`: whether a message reports a missing resource, whatever its letter
case. -/
def reportsAbsence (message : String) : Bool :=
  absencePhrases.any fun phrase => mentions phrase.toList (lowercased message.toList)

end Settle.Text
