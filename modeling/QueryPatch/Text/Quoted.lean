import QueryPatch.Text.Printable

/-! # Quoted texts

A text is shown between quotes on one line: single quotes, or double ones if it holds a single
quote and no double one. Line breaks, the backslash and the quote in use have short escapes; other
code points that are not printable are written in lower-case hexadecimal.
-/
set_option autoImplicit false

namespace QueryPatch.Text

def hexDigit (n : Nat) : Char := Nat.digitChar (n % 16)

/-- The last `width` hexadecimal digits of a number. -/
def hex : Nat → Nat → Text
  | 0, _ => []
  | width + 1, n => hex width (n / 16) ++ [hexDigit n]

def escapeCodePoint (n : Nat) : Text :=
  if n < 0x100 then "\\x" ++ hex 2 n
  else if n < 0x10000 then "\\u" ++ hex 4 n
  else "\\U" ++ hex 8 n

def escape (quote c : Char) : Text :=
  if c = quote ∨ c = '\\' then ['\\', c]
  else if c = '\n' then "\\n"
  else if c = '\r' then "\\r"
  else if c = '\t' then "\\t"
  else if isPrintable c then [c]
  else escapeCodePoint c.toNat

def quoteFor (text : Text) : Char :=
  if text.contains '\'' && !text.contains '"' then '"' else '\''

def quoted (text : Text) : Text :=
  quoteFor text :: (text.flatMap (escape (quoteFor text)) ++ [quoteFor text])

example : quoted ['i', 't', '\'', 's', '\n'] = "\"it's\\n\"".toList := by decide +kernel

end QueryPatch.Text
