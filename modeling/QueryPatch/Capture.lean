import QueryPatch.Text.Alphanumeric
import QueryPatch.Text.Blank

/-! # Captured statements

Captured text holds queries, each from a line that starts with the word `select` up to a semicolon
or the end of the text. A semicolon inside a quoted literal ends nothing. A literal runs from a
quote to the next quote that has no other quote beside it to pair with; where there is none, it
runs up to the first quote of the last pair; where there is no pair either, the quote stands for
itself.
-/
set_option autoImplicit false

namespace QueryPatch

/-- A query of captured text, and the number of the line on which it starts. -/
structure Statement where
  line : Nat
  text : Text
  deriving DecidableEq

namespace Capture

/-- What follows the first quote that pairs with no other one. -/
def afterUnpaired? : Text → Option Text
  | [] => none
  | '\'' :: '\'' :: rest => afterUnpaired? rest
  | '\'' :: rest => some rest
  | _ :: rest => afterUnpaired? rest

/-- What follows the first quote of the last pair. -/
def afterLastPair? : Text → Option Text
  | [] => none
  | '\'' :: '\'' :: rest => afterLastPair? rest <|> some ('\'' :: rest)
  | _ :: rest => afterLastPair? rest

/-- What is left after a quote: the text after its literal, if it opens one. -/
def afterQuote (rest : Text) : Text :=
  (afterUnpaired? rest <|> afterLastPair? rest).getD rest

theorem afterUnpaired?_suffix {text rest : Text} (h : afterUnpaired? text = some rest) :
    rest <:+ text := by
  fun_induction afterUnpaired? text with
  | case1 => cases h
  | case2 tail ih => exact (ih h).trans (List.suffix_append ['\'', '\''] tail)
  | case3 => cases h; exact List.suffix_cons ..
  | case4 _ _ _ _ ih => exact (ih h).trans (List.suffix_cons ..)

theorem afterLastPair?_suffix {text rest : Text} (h : afterLastPair? text = some rest) :
    rest <:+ text := by
  fun_induction afterLastPair? text with
  | case1 => cases h
  | case2 tail ih =>
    cases hr : afterLastPair? tail with
    | none =>
      have : '\'' :: tail = rest := by simpa [hr] using h
      exact this ▸ List.suffix_cons ..
    | some found =>
      have : found = rest := by simpa [hr] using h
      exact (ih (this ▸ hr)).trans (List.suffix_append ['\'', '\''] tail)
  | case3 _ _ _ ih => exact (ih h).trans (List.suffix_cons ..)

theorem afterQuote_suffix (rest : Text) : afterQuote rest <:+ rest := by
  unfold afterQuote
  cases hu : afterUnpaired? rest with
  | some _ => simpa using afterUnpaired?_suffix hu
  | none =>
    cases hp : afterLastPair? rest with
    | some _ => simpa using afterLastPair?_suffix hp
    | none => simp

/-- The text from the first semicolon outside literals on. -/
def fromTerminator : Text → Text
  | [] => []
  | c :: rest =>
    if c = ';' then c :: rest
    else if c = '\'' then fromTerminator (afterQuote rest)
    else fromTerminator rest
termination_by text => text.length
decreasing_by
  · exact Nat.lt_succ_of_le (afterQuote_suffix rest).length_le
  · simp

theorem fromTerminator_suffix (text : Text) : fromTerminator text <:+ text := by
  fun_induction fromTerminator text with
  | case1 => simp
  | case2 => simp
  | case3 rest _ ih => exact ih.trans ((afterQuote_suffix rest).trans (List.suffix_cons ..))
  | case4 _ _ _ _ ih => exact ih.trans (List.suffix_cons ..)

/-- The word `select` in any case. The long s counts as an s. -/
def selectLetters : List (List Char) :=
  [['s', 'S', '\u017f'], ['e', 'E'], ['l', 'L'], ['e', 'E'], ['c', 'C'], ['t', 'T']]

def afterLetters? : List (List Char) → Text → Option Text
  | [], text => some text
  | _ :: _, [] => none
  | letters :: more, c :: rest => if letters.contains c then afterLetters? more rest else none

/-- Whether the text starts with `select` as a whole word. -/
def startsStatement (text : Text) : Bool :=
  match afterLetters? selectLetters text with
  | some [] => true
  | some (c :: _) => !Text.isWordLike c
  | none => false

/-- What of `text` comes before its end `rest`. -/
def before (text rest : Text) : Text := text.take (text.length - rest.length)

/-- The statements of a text that begins on the given line; `lineStart` says whether it begins at
the start of that line. -/
def statementsFrom (line : Nat) (lineStart : Bool) : Text → List Statement
  | [] => []
  | c :: rest =>
    if lineStart && startsStatement (c :: rest) then
      let statement := before (c :: rest) (fromTerminator (c :: rest))
      let found : Statement := ⟨line, Text.stripEnd statement⟩
      match _h : fromTerminator (c :: rest) with
      | [] => [found]
      | _ :: after => found :: statementsFrom (line + statement.count '\n') false after
    else statementsFrom (if c = '\n' then line + 1 else line) (c = '\n') rest
termination_by text => text.length
decreasing_by
  · have := (fromTerminator_suffix (c :: rest)).length_le
    rw [_h] at this
    simp only [List.length_cons] at this ⊢
    omega
  · simp

def statements (text : Text) : List Statement := statementsFrom 1 true text

end Capture
end QueryPatch
