/-! # Texts

A text is a sequence of code points. Every length, column and position counts code points.
-/
set_option autoImplicit false

namespace QueryPatch

abbrev Text := List Char

instance : Coe String Text := ⟨String.toList⟩

namespace Text

/-- A name that is not known is written `None`. -/
def shown (name : Option Text) : Text := name.getD "None"

/-- Fills up with spaces on the right; a longer text is kept whole. -/
def padTo (width : Nat) (text : Text) : Text :=
  text ++ List.replicate (width - text.length) ' '

theorem padTo_of_length_le {width : Nat} {text : Text} (h : width ≤ text.length) :
    padTo width text = text := by
  simp [padTo, Nat.sub_eq_zero_of_le h]

theorem length_padTo (width : Nat) (text : Text) :
    (padTo width text).length = max width text.length := by
  simp only [padTo, List.length_append, List.length_replicate]
  omega

def ofNat (n : Nat) : Text := toString n

def ofInt (n : Int) : Text := toString n

/-- Whether `part` stands somewhere in the text. -/
def occursIn (part : Text) : Text → Bool
  | [] => part.isEmpty
  | c :: rest => part.isPrefixOf (c :: rest) || occursIn part rest

end Text
end QueryPatch
