import QueryPatch.Proofs.Capture.Revision
import QueryPatch.Proofs.Patch.Linewise

/-! # Patched texts as revisions

Patching revises a captured query, if no quote stands in a line that is replaced: the new line has
neither quotes nor semicolons, and it is never the first line.
-/
set_option autoImplicit false

namespace QueryPatch

open Text

theorem Text.join_eq_append (separator part : Text) (parts : List Text) :
    join separator (part :: parts) = part ++ join separator ([] :: parts) := by
  by_cases h : parts = []
  · rw [h, join_singleton, join_singleton, List.append_nil]
  · rw [join_cons h, join_cons h, List.nil_append, List.append_assoc]

/-- A line that was kept, or swapped for one without quotes. -/
def Swapped (old new : Text) : Prop :=
  new = old ∨ '\'' ∉ old ∧ (∀ c ∈ new, c ≠ ';' ∧ c ≠ '\'') ∧ new ≠ [] ∧ IsStripped new

theorem Revised.join {before after : List Text} (h : List.Forall₂ Swapped before after)
    (first : Text) : Revised (join ['\n'] (first :: before)) (join ['\n'] (first :: after)) := by
  induction h generalizing first with
  | nil => exact .refl _
  | @cons old new before after hHere _ ih =>
    rw [join_cons (List.cons_ne_nil old before), join_cons (List.cons_ne_nil new after),
      List.append_assoc, List.append_assoc, List.singleton_append, List.singleton_append]
    apply Revised.append first
    rcases hHere with rfl | ⟨hOld, hNew, hne, hStripped⟩
    · exact .same '\n' (ih new)
    · rw [join_eq_append _ old, join_eq_append _ new]
      exact .line hOld hNew hne hStripped (ih [])

variable {lines : List Text} {columns : ColumnSet} {line : Nat}
  {tableAlias column outputName : Text} {hasNext : Bool}

theorem isStripped_cardinalityLine :
    IsStripped (cardinalityLine tableAlias column outputName hasNext) := by
  have hLast := getLast?_cardinalityItem tableAlias column outputName hasNext
  have hne : cardinalityItem tableAlias column outputName hasNext ≠ [] := by
    intro hEmpty
    rw [hEmpty] at hLast
    cases hLast
  rw [cardinalityLine_eq, isStripped_append_iff _ hne, IsStripped, hLast]
  rintro c ⟨⟩
  cases hasNext <;> decide

theorem AggregatesSketch.swapped {text : Text}
    (h : AggregatesSketch lines columns line tableAlias column outputName hasNext)
    (hQuote : '\'' ∉ text) :
    Swapped text (cardinalityLine tableAlias column outputName hasNext) := by
  obtain ⟨hAlias, hColumn, hOutput⟩ := h.isWord
  refine .inr ⟨hQuote, fun c hc => ?_, ?_, isStripped_cardinalityLine⟩
  · have hChar := isCardinalityChar_of_mem hAlias hColumn hOutput c hc
    constructor <;> rintro rfl <;> revert hChar <;> decide
  · rw [cardinalityLine_eq]
    nofun

/-- The first line is kept, since no keyword comes before it. -/
theorem head?_patchedLines (columns : ColumnSet) (lines : List Text) :
    (patchedLines columns lines).head? = lines.head? := by
  rw [List.head?_eq_getElem?, List.head?_eq_getElem?]
  rcases getElem?_patchedLines_cases lines columns 0 with ⟨_, _, _, _, h, -⟩ | ⟨-, hKept⟩
  · obtain ⟨earlier, hEarlier, -⟩ := h.after_select
    exact absurd hEarlier (Nat.not_lt_zero earlier)
  · exact hKept

theorem swapped_patchedLines
    (hQuotes : ∀ line text tableAlias column outputName hasNext, lines[line]? = some text →
      AggregatesSketch lines columns line tableAlias column outputName hasNext → '\'' ∉ text) :
    List.Forall₂ Swapped lines (patchedLines columns lines) := by
  refine List.forall₂_iff_get.mpr ⟨(length_patchedLines columns lines).symm, ?_⟩
  intro line hOld hNew
  rw [List.get_eq_getElem, List.get_eq_getElem]
  have hText := List.getElem?_eq_getElem hOld
  rcases getElem?_patchedLines_cases lines columns line with ⟨_, _, _, _, h, hLine⟩ | ⟨-, hKept⟩
  · rw [List.getElem?_eq_getElem hNew] at hLine
    rw [Option.some.inj hLine]
    exact h.swapped (hQuotes line _ _ _ _ _ hText h)
  · rw [List.getElem?_eq_getElem hNew, hText] at hKept
    exact .inl (Option.some.inj hKept)

theorem revised_patchedLines
    (hQuotes : ∀ line text tableAlias column outputName hasNext, lines[line]? = some text →
      AggregatesSketch lines columns line tableAlias column outputName hasNext → '\'' ∉ text) :
    Revised (join ['\n'] lines) (join ['\n'] (patchedLines columns lines)) := by
  have hSwapped := swapped_patchedLines hQuotes
  have hFirst := head?_patchedLines columns lines
  cases lines with
  | nil => exact .refl _
  | cons first others =>
    generalize patchedLines columns (first :: others) = patched at hSwapped hFirst
    cases hSwapped with
    | cons _ hRest =>
      obtain rfl := Option.some.inj hFirst
      exact .join hRest _

theorem AggregatesSketch.exists_replaced {text : Text} (hText : lines[line]? = some text)
    (h : AggregatesSketch lines columns line tableAlias column outputName hasNext) :
    ∃ fragment ∈ (Rule.applyAll columns Rule.standard (.ofLines lines)).1.fragments,
      fragment.replacement ≠ none ∧ fragment.text = text := by
  obtain ⟨flag, -, hRan⟩ := Rule.ran_standard columns lines
  have hReading := getElem?_standard_eq_some_iff.mpr ⟨text, hText, rfl⟩
  rw [Rule.applyAll_of_ran hRan]
  refine ⟨_, List.mem_map_of_mem (List.mem_map_of_mem (List.mem_of_getElem? hReading)), ?_,
    (read_readLine _ text).text_eq⟩
  rw [(cardinality?_eq_some_iff hReading).mpr ⟨_, _, _, _, h, rfl⟩]
  nofun

theorem not_patches_nil (lines : List Text) : ¬ Patches [] lines := by
  rw [patches_iff]
  rintro ⟨line, tableAlias, column, outputName, hasNext, h⟩
  obtain ⟨schema, name, -, hMem⟩ := h.sketch
  cases hMem

end QueryPatch
