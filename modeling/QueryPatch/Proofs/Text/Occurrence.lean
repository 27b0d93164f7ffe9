import QueryPatch.Proofs.Text.Cut

/-! # Where a separator stands

The occurrences of a separator from left to right, none of them overlapping, by their positions.
Cutting a text takes out exactly these.
-/
set_option autoImplicit false

namespace QueryPatch.Text

def OccursAt (separator text : Text) (position : Nat) : Prop := separator <+: text.drop position

instance (separator text : Text) (position : Nat) : Decidable (OccursAt separator text position) :=
  inferInstanceAs (Decidable (separator <+: text.drop position))

/-- The occurrences from a position on: first the leftmost one, then those after its end. -/
inductive Occurrences (separator text : Text) : Nat → List Nat → Prop
  | done {start : Nat} :
      (∀ position, start ≤ position → ¬ OccursAt separator text position) →
      Occurrences separator text start []
  | next {start position : Nat} {later : List Nat} :
      start ≤ position → OccursAt separator text position →
      (∀ earlier, start ≤ earlier → earlier < position → ¬ OccursAt separator text earlier) →
      Occurrences separator text (position + separator.length) later →
      Occurrences separator text start (position :: later)

variable {separator text : Text}

theorem Occurrences.unique {start : Nat} {positions positions' : List Nat}
    (h : Occurrences separator text start positions)
    (h' : Occurrences separator text start positions') : positions = positions' := by
  induction h generalizing positions' with
  | done hNone =>
    cases h' with
    | done => rfl
    | next hStart hHere => exact absurd hHere (hNone _ hStart)
  | next hStart hHere hBefore _ ih =>
    rename_i position _ _
    cases h' with
    | done hNone => exact absurd hHere (hNone position hStart)
    | next hStart' hHere' hBefore' hLater' =>
      rename_i position' _
      rcases Nat.lt_trichotomy position position' with hLess | rfl | hGreater
      · exact absurd hHere (hBefore' position hStart hLess)
      · rw [ih hLater']
      · exact absurd hHere' (hBefore position' hStart' hGreater)

theorem Apart.not_infix {part : Text} (hSeparator : separator ≠ []) (h : Apart separator part) :
    ¬ separator <:+: part := by
  rintro ⟨before, after, rfl⟩
  have hNonempty : separator ++ after ≠ [] := by simp [hSeparator]
  exact h (separator ++ after) ⟨before, by simp⟩ hNonempty ⟨after ++ separator, by simp⟩

theorem Cut.not_infix_of_mem {part : Text} {parts : List Text} (hSeparator : separator ≠ [])
    (h : Cut separator parts) (hMem : part ∈ parts) : ¬ separator <:+: part := by
  induction h with
  | last hPart =>
    obtain rfl := List.mem_singleton.mp hMem
    exact hPart
  | cons hPart _ ih =>
    rcases List.mem_cons.mp hMem with rfl | hMem
    · exact hPart.not_infix hSeparator
    · exact ih hMem

/-- The parts of what is left of the text after `start` are the stretches around the occurrences. -/
theorem Cut.exists_occurrences {parts : List Text} (h : Cut separator parts) (start : Nat)
    (hText : text.drop start = join separator parts) :
    ∃ positions, Occurrences separator text start positions ∧
      parts.length = positions.length + 1 := by
  induction h generalizing start with
  | last hPart =>
    rw [join_singleton] at hText
    refine ⟨[], .done fun position hStart hHere => hPart ?_, rfl⟩
    have hDrop : text.drop position = (text.drop start).drop (position - start) := by
      rw [List.drop_drop]
      congr 1
      omega
    rw [OccursAt, hDrop, hText] at hHere
    exact hHere.isInfix.trans (List.drop_suffix _ _).isInfix
  | cons hPart hParts ih =>
    rename_i part parts
    rw [join_cons hParts.ne_nil] at hText
    have hDrop (passed : Nat) : text.drop (start + passed) =
        (part ++ separator ++ join separator parts).drop passed := by
      rw [← List.drop_drop, hText]
    obtain ⟨positions, hPositions, hLength⟩ := ih (start + part.length + separator.length)
      (by rw [Nat.add_assoc, hDrop, ← List.length_append, List.drop_left])
    refine ⟨(start + part.length) :: positions, .next ?_ ?_ ?_ hPositions, by simp [hLength]⟩
    · omega
    · rw [OccursAt, hDrop, List.append_assoc, List.drop_left]
      exact List.prefix_append _ _
    · intro earlier hStart hEarlier hHere
      obtain ⟨passed, rfl⟩ := Nat.exists_eq_add_of_le hStart
      have hPassed : passed < part.length := by omega
      have hTail : part.drop passed ≠ [] := by simpa using hPassed
      refine hPart (part.drop passed) (List.drop_suffix _ _) hTail ?_
      -- what comes after the separator is too far away to be part of an occurrence here
      rw [OccursAt, hDrop, List.append_assoc, List.drop_append_of_le_length hPassed.le,
        ← List.append_assoc] at hHere
      exact List.prefix_of_prefix_length_le hHere (List.prefix_append _ _) (by simp)

end QueryPatch.Text
