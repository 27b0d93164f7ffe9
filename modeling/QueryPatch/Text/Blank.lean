import QueryPatch.Text.Basic

/-! # Blanks

The code points that count as blank, and texts without blanks at their ends.
-/
set_option autoImplicit false

namespace QueryPatch.Text

/-- Zero-width characters (U+200B, U+FEFF) and U+180E are not blank. -/
def blanks : List Nat :=
  [0x09, 0x0a, 0x0b, 0x0c, 0x0d, 0x1c, 0x1d, 0x1e, 0x1f, 0x20, 0x85, 0xa0, 0x1680,
   0x2000, 0x2001, 0x2002, 0x2003, 0x2004, 0x2005, 0x2006, 0x2007, 0x2008, 0x2009, 0x200a,
   0x2028, 0x2029, 0x202f, 0x205f, 0x3000]

def isBlank (c : Char) : Bool := blanks.contains c.toNat

def stripEnd (text : Text) : Text := (text.reverse.dropWhile isBlank).reverse

def strip (text : Text) : Text := stripEnd (text.dropWhile isBlank)

example : strip " \t a b\u3000\n" = "a b".toList := by decide

end QueryPatch.Text
