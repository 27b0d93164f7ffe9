import QueryPatch.Text.Basic

/-! # Separators

A text is cut at the leftmost occurrences of a separator that do not overlap, and put together
again by writing the separator between the pieces.
-/
set_option autoImplicit false

namespace QueryPatch.Text

/-- The pieces between the occurrences of the separator `first :: others`. -/
def pieces (first : Char) (others : Text) : Text → List Text
  | [] => [[]]
  | c :: rest =>
    if c = first ∧ others.isPrefixOf rest then [] :: pieces first others (rest.drop others.length)
    else (pieces first others rest).modifyHead (c :: ·)
termination_by text => text.length
decreasing_by
  · simp only [List.length_drop, List.length_cons]
    omega
  · simp

/-- No separator, no cut: the empty separator is refused. -/
def split (separator text : Text) : Option (List Text) :=
  match separator with
  | [] => none
  | first :: others => some (pieces first others text)

def join (separator : Text) (parts : List Text) : Text := separator.intercalate parts

theorem split_eq_none_iff {separator text : Text} :
    split separator text = none ↔ separator = [] := by
  cases separator <;> simp [split]

end QueryPatch.Text
