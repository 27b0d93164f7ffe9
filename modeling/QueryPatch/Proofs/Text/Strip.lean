import QueryPatch.Text.Blank
import Mathlib.Data.List.TakeWhile

/-! # Texts stripped at the end

A text is what stripping leaves of it and the blanks behind that. A text that ends in anything but a
blank is left alone.
-/
set_option autoImplicit false

namespace QueryPatch.Text

theorem exists_blank_behind (text : Text) :
    ∃ gap, text = stripEnd text ++ gap ∧ ∀ c ∈ gap, isBlank c = true := by
  refine ⟨(text.reverse.takeWhile isBlank).reverse, ?_, ?_⟩
  · rw [stripEnd, ← List.reverse_append, List.takeWhile_append_dropWhile, List.reverse_reverse]
  · intro c hc
    exact List.mem_takeWhile_imp (List.mem_reverse.mp hc)

theorem stripEnd_ne_nil {text : Text} {c : Char} (hMem : c ∈ text) (h : isBlank c = false) :
    stripEnd text ≠ [] := by
  rw [stripEnd, ne_eq, List.reverse_eq_nil_iff, List.dropWhile_eq_nil_iff]
  intro hAll
  simpa [h] using hAll c (List.mem_reverse.mpr hMem)

/-- No blank stands at the end. -/
def IsStripped (text : Text) : Prop := ∀ c ∈ text.getLast?, isBlank c = false

theorem isStripped_stripEnd (text : Text) : IsStripped (stripEnd text) := by
  intro c hc
  have hHead := List.head?_dropWhile_not isBlank text.reverse
  rw [stripEnd, List.getLast?_reverse] at hc
  rw [Option.mem_def.mp hc] at hHead
  simpa using hHead

theorem IsStripped.stripEnd_eq {text : Text} (h : IsStripped text) : stripEnd text = text := by
  rw [stripEnd, List.dropWhile_eq_self_iff.mpr, List.reverse_reverse]
  intro hLength hBlank
  rw [List.length_reverse] at hLength
  rw [List.getElem_zero, List.head_reverse] at hBlank
  rw [h _ (List.getLast?_eq_some_getLast _)] at hBlank
  cases hBlank

theorem IsStripped.stripEnd_append {text gap : Text} (h : IsStripped text)
    (hGap : ∀ c ∈ gap, isBlank c = true) : stripEnd (text ++ gap) = text := by
  have hReverse : ∀ c ∈ gap.reverse, isBlank c = true := fun c hc => hGap c (List.mem_reverse.mp hc)
  rw [stripEnd, List.reverse_append, List.dropWhile_append_of_pos hReverse]
  exact h.stripEnd_eq

theorem isStripped_append_iff (front : Text) {text : Text} (h : text ≠ []) :
    IsStripped (front ++ text) ↔ IsStripped text := by
  rw [IsStripped, IsStripped, List.getLast?_append, List.getLast?_eq_some_getLast h, Option.some_or]

theorem head?_stripEnd {text : Text} {c : Char} (h : c ∈ (stripEnd text).head?) :
    c ∈ text.head? := by
  obtain ⟨gap, hText, -⟩ := exists_blank_behind text
  rw [hText, List.head?_append, Option.mem_def.mp h]
  rfl

theorem not_isBlank_of_head?_strip {text : Text} {c : Char} (h : c ∈ (strip text).head?) :
    isBlank c = false := by
  have hHead := List.head?_dropWhile_not isBlank text
  rw [Option.mem_def.mp (head?_stripEnd h)] at hHead
  simpa using hHead

theorem strip_ne_nil {text : Text} {c : Char} (hHead : c ∈ text.head?) (h : isBlank c = false) :
    strip text ≠ [] := by
  have hKept : text.dropWhile isBlank = text := by
    obtain ⟨rest, rfl⟩ := List.head?_eq_some_iff.mp (Option.mem_def.mp hHead)
    exact List.dropWhile_cons_of_neg (by rw [h]; exact Bool.false_ne_true)
  rw [strip, hKept]
  exact stripEnd_ne_nil (List.mem_of_mem_head? hHead) h

end QueryPatch.Text
