import QueryPatch.Text.Basic

/-! # Words

A word is a non-empty run of ASCII letters, ASCII digits and underscores.
-/
set_option autoImplicit false

namespace QueryPatch.Text

def isWordChar (c : Char) : Bool := c.isAlphanum || c == '_'

/-- The longest word at the start of a text, and what follows it. -/
def word? (text : Text) : Option (Text × Text) :=
  match text.takeWhile isWordChar with
  | [] => none
  | w => some (w, text.dropWhile isWordChar)

end QueryPatch.Text
