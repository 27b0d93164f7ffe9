import QueryPatch.Proofs.Query.Lines
import QueryPatch.Proofs.Text.Occurrence

/-! # Reading and writing

A query that is read and written again with the same separator gives the text it was read from.
Every occurrence of the separator is taken out by the reading and put back by the writing.
-/
set_option autoImplicit false

namespace QueryPatch.Query

open Text

theorem rendered_ofLines (separator : Text) (lines : List Text) :
    (ofLines lines).rendered separator = join separator lines := by
  have hRendered : (ofLines lines).fragments.map (·.rendered) =
      (ofLines lines).fragments.map Fragment.text := by
    apply List.map_congr_left
    intro fragment hFragment
    rw [Fragment.rendered, replacement_eq_none_of_mem hFragment, Option.getD_none]
  rw [rendered, hRendered, map_text_ofLines]

theorem ofText?_eq_ok {separator text : Text} {lines : List Text}
    (h : split separator text = some lines) : ofText? separator text = .ok (ofLines lines) := by
  rw [ofText?, readings?_eq_ok h]
  rfl

theorem ofText?_eq_ok_iff {separator text : Text} {query : Query} :
    ofText? separator text = .ok query ↔
      ∃ lines, split separator text = some lines ∧ query = ofLines lines := by
  constructor
  · intro h
    have hSeparator : separator ≠ [] := by
      rintro rfl
      cases h
    obtain ⟨lines, hSplit⟩ := exists_split hSeparator text
    exact ⟨lines, hSplit, Except.ok.inj (h.symm.trans (ofText?_eq_ok hSplit))⟩
  · rintro ⟨lines, hSplit, rfl⟩
    exact ofText?_eq_ok hSplit

/-- Reading succeeds for every separator but the empty one and loses nothing: no line holds the
separator, there is one line more than there are occurrences, and writing gives the text back. -/
theorem ofText?_lossless (separator text : Text) (hSeparator : separator ≠ []) :
    ∃ query positions, ofText? separator text = .ok query ∧
      (∀ fragment ∈ query.fragments, ¬ separator <:+: fragment.text) ∧
      (∀ others, Occurrences separator text 0 others ↔ others = positions) ∧
      query.fragments.length = positions.length + 1 ∧
      query.rendered separator = text := by
  obtain ⟨lines, hSplit⟩ := exists_split hSeparator text
  obtain ⟨hCut, hJoin⟩ := (split_eq_some_iff hSeparator).mp hSplit
  obtain ⟨positions, hPositions, hLength⟩ := hCut.exists_occurrences 0 hJoin.symm
  refine ⟨ofLines lines, positions, ofText?_eq_ok hSplit, ?_, ?_, ?_, ?_⟩
  · intro fragment hFragment
    apply hCut.not_infix_of_mem hSeparator
    rw [← map_text_ofLines lines]
    exact List.mem_map_of_mem hFragment
  · intro others
    constructor
    · exact fun hOthers => hOthers.unique hPositions
    · rintro rfl
      exact hPositions
  · rw [← hLength, ← map_text_ofLines lines, List.length_map, map_text_ofLines]
  · rw [rendered_ofLines, hJoin]

/-- The separator overlaps itself, and stands at both ends and twice in a row. -/
theorem ofText?_lossless_overlapping :
    "aa".toList ≠ [] ∧ Occurrences "aa" "aaabaaaa" 0 [0, 4, 6] ∧
      ∃ query, ofText? "aa" "aaabaaaa" = .ok query ∧ query.fragments.length = 4 ∧
        query.rendered "aa" = "aaabaaaa" := by
  have hPositions : Occurrences "aa" "aaabaaaa" 0 [0, 4, 6] := by
    refine .next (Nat.le_refl 0) (by decide) (fun earlier _ hLess => by omega) ?_
    refine .next (by decide) (by decide) (fun earlier hStart hLess => ?_) ?_
    · have hEarlier : earlier = 2 ∨ earlier = 3 := by
        change 2 ≤ earlier at hStart
        omega
      rcases hEarlier with rfl | rfl <;> decide
    refine .next (by decide) (by decide) (fun earlier hStart hLess => ?_) (.done ?_)
    · change 6 ≤ earlier at hStart
      omega
    · intro position hStart hHere
      have hLength : 2 ≤ 8 - position := by simpa using hHere.length_le
      change 8 ≤ position at hStart
      omega
  obtain ⟨query, positions, hQuery, -, hIff, hLength, hRendered⟩ :=
    ofText?_lossless "aa" "aaabaaaa" (by decide)
  obtain rfl := (hIff _).mp hPositions
  exact ⟨by decide, hPositions, query, hQuery, hLength, hRendered⟩

end QueryPatch.Query
