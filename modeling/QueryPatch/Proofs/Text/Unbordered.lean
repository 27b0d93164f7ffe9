import QueryPatch.Proofs.Text.Cut

/-! # Separators that do not overlap themselves

If no proper part of a separator begins and ends it, two texts with the separator between them are
cut like the two texts alone.
-/
set_option autoImplicit false

namespace QueryPatch.Text

/-- The separator begins and ends with no shorter text but the empty one. -/
def Unbordered (separator : Text) : Prop :=
  ∀ border, border ≠ [] → border <+: separator → border <:+ separator → border = separator

theorem unbordered_singleton (c : Char) : Unbordered [c] := by
  intro border hne hPrefix _
  cases border with
  | nil => exact absurd rfl hne
  | cons d rest =>
    apply hPrefix.eq_of_length_le
    simp

variable {separator : Text}

theorem Unbordered.apart {part : Text} (h : Unbordered separator) (hPart : ¬ separator <:+: part) :
    Apart separator part := by
  intro tail hTail hne hEarly
  rcases List.prefix_or_prefix_of_prefix hEarly (List.prefix_append tail separator) with
    hInside | ⟨rest, rfl⟩
  · exact hPart (hInside.isInfix.trans hTail.isInfix)
  · -- the occurrence runs on into the separator, so `rest` both ends and begins it
    have hRest : rest <+: tail ++ rest := (List.prefix_append_right_inj tail).mp hEarly
    have hPositive := List.length_pos_iff.mpr hne
    cases hNil : rest with
    | nil =>
      rw [hNil, List.append_nil] at hPart
      exact hPart hTail.isInfix
    | cons c more =>
      have hSame := h rest (by simp [hNil]) hRest (List.suffix_append tail rest)
      have hLength := congrArg List.length hSame
      rw [List.length_append] at hLength
      omega

theorem Cut.append {parts parts' : List Text} (h : Unbordered separator)
    (hParts : Cut separator parts) (hParts' : Cut separator parts') :
    Cut separator (parts ++ parts') := by
  induction hParts with
  | last hPart => exact .cons (h.apart hPart) hParts'
  | cons hPart _ ih => exact .cons hPart ih

theorem join_append {parts parts' : List Text} (h : parts ≠ []) (h' : parts' ≠ []) :
    join separator (parts ++ parts') =
      join separator parts ++ separator ++ join separator parts' := by
  induction parts with
  | nil => exact absurd rfl h
  | cons part rest ih =>
    cases rest with
    | nil => rw [join_singleton, List.singleton_append, join_cons h']
    | cons next rest =>
      rw [List.cons_append, join_cons (by simp), join_cons (by simp), ih (by simp)]
      simp only [List.append_assoc]

theorem split_append {first second : Text} {parts parts' : List Text} (h : Unbordered separator)
    (hFirst : split separator first = some parts)
    (hSecond : split separator second = some parts') :
    split separator (first ++ separator ++ second) = some (parts ++ parts') := by
  have hSeparator := ne_nil_of_split hFirst
  obtain ⟨hCut, rfl⟩ := (split_eq_some_iff hSeparator).mp hFirst
  obtain ⟨hCut', rfl⟩ := (split_eq_some_iff hSeparator).mp hSecond
  exact (split_eq_some_iff hSeparator).mpr
    ⟨hCut.append h hCut', join_append hCut.ne_nil hCut'.ne_nil⟩

end QueryPatch.Text
