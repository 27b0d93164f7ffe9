import QueryPatch.Proofs.Query.Sketch
import QueryPatch.Proofs.Text.Cut

/-! # Patched lines, patched again

A line that was replaced declares no alias any more. This matters to no other line: the table that
its alias names is declared after it, or the line would not have been replaced.
-/
set_option autoImplicit false

namespace QueryPatch

open Text

variable {lines : List Text} {columns : ColumnSet} {line : Nat}
  {text opening schema name tableAlias column outputName : Text} {hasNext : Bool}

theorem getElem?_patchedLines_keyword_iff (keyword : Keyword) :
    (patchedLines columns lines)[line]? = some keyword.text ↔ lines[line]? = some keyword.text := by
  rcases getElem?_patchedLines_cases lines columns line with ⟨_, _, _, _, h, hNew⟩ | ⟨-, hKept⟩
  · rw [hNew]
    constructor
    · exact fun hKeyword => absurd (Option.some.inj hKeyword) (cardinalityLine_ne_keyword keyword)
    · exact fun hKeyword => absurd hKeyword (h.not_keyword keyword)
  · rw [hKept]

theorem nearestKeyword_patchedLines_iff {keyword : Keyword} :
    NearestKeyword (patchedLines columns lines) line keyword ↔
      NearestKeyword lines line keyword := by
  simp only [NearestKeyword, ne_eq, getElem?_patchedLines_keyword_iff]

theorem kept_of_aggregationLine (hText : (patchedLines columns lines)[line]? = some text)
    (hLine : AggregationLine (strip text) opening tableAlias column outputName hasNext) :
    lines[line]? = some text ∧
      ∀ tableAlias column outputName hasNext,
        ¬ AggregatesSketch lines columns line tableAlias column outputName hasNext := by
  rcases getElem?_patchedLines_cases lines columns line with ⟨_, _, _, _, h, hNew⟩ | ⟨hNone, hKept⟩
  · obtain rfl := Option.some.inj (hNew.symm.trans hText)
    exact absurd hLine (not_aggregationLine_cardinalityLine h.isWord.1 h.isWord.2.1)
  · exact ⟨hKept.symm.trans hText, hNone⟩

theorem kept_of_tableLine (hText : (patchedLines columns lines)[line]? = some text)
    (hLine : TableLine (strip text) schema name tableAlias) : lines[line]? = some text := by
  rcases getElem?_patchedLines_cases lines columns line with ⟨_, _, _, _, -, hNew⟩ | ⟨-, hKept⟩
  · obtain rfl := Option.some.inj (hNew.symm.trans hText)
    exact absurd hLine not_tableLine_cardinalityLine
  · exact hKept.symm.trans hText

theorem NearestKeyword.not_source (h : NearestKeyword lines line .select) :
    ¬ NearestKeyword lines line .source := by
  intro hSource
  have hClause := Clause.after_take_eq_select_iff.mpr h
  rw [Clause.after_take_eq_source_iff.mpr hSource] at hClause
  cases hClause

/-- Whatever line declared an alias, the same line or a later one still does. -/
theorem DeclaresAlias.exists_patchedLines (columns : ColumnSet)
    (h : DeclaresAlias lines tableAlias line) :
    ∃ later, line ≤ later ∧ DeclaresAlias (patchedLines columns lines) tableAlias later := by
  rcases getElem?_patchedLines_cases lines columns line with
    ⟨otherAlias, _, _, _, hSketch, -⟩ | ⟨-, hKept⟩
  · -- the line was replaced, so its alias names a table
    obtain ⟨text, opening, hText, hLine, -⟩ := hSketch.aggregation
    obtain rfl : otherAlias = tableAlias := by
      cases h with
      | table _ hSource => exact absurd hSource hSketch.after_select.not_source
      | aggregation hText' _ hLine' =>
        rw [hText] at hText'
        cases hText'
        exact (hLine.unique hLine').2.1
    obtain ⟨schema, name, ⟨source, table, hTable, hSource, hTableLine, hLast⟩, -⟩ := hSketch.sketch
    refine ⟨source, Nat.le_of_not_lt fun hLess => hLast line hLess h, ?_⟩
    rcases getElem?_patchedLines_cases lines columns source with
      ⟨_, _, _, _, hOther, -⟩ | ⟨-, hKept⟩
    · exact absurd hSource hOther.after_select.not_source
    · exact .table (hKept.trans hTable) (nearestKeyword_patchedLines_iff.mpr hSource) hTableLine
  · refine ⟨line, Nat.le_refl line, ?_⟩
    cases h with
    | table hText hNearest hLine =>
      exact .table (hKept.trans hText) (nearestKeyword_patchedLines_iff.mpr hNearest) hLine
    | aggregation hText hNearest hLine =>
      exact .aggregation (hKept.trans hText) (nearestKeyword_patchedLines_iff.mpr hNearest) hLine

theorem NamesTable.of_patchedLines
    (h : NamesTable (patchedLines columns lines) tableAlias schema name) :
    NamesTable lines tableAlias schema name := by
  obtain ⟨line, text, hText, hNearest, hLine, hLast⟩ := h
  refine ⟨line, text, kept_of_tableLine hText hLine, nearestKeyword_patchedLines_iff.mp hNearest,
    hLine, fun later hLater hDeclares => ?_⟩
  obtain ⟨last, hLess, hStill⟩ := hDeclares.exists_patchedLines columns
  exact hLast last (Nat.lt_of_lt_of_le hLater hLess) hStill

theorem not_aggregatesSketch_patchedLines :
    ¬ AggregatesSketch (patchedLines columns lines) columns line tableAlias column outputName
      hasNext := by
  rintro ⟨hKeyword, hNearest, ⟨text, opening, hText, hLine, hOpening⟩, schema, name, hNames, hMem⟩
  obtain ⟨hKept, hNone⟩ := kept_of_aggregationLine hText hLine
  refine hNone tableAlias column outputName hasNext ⟨?_, ?_, ?_, ?_⟩
  · exact fun keyword h => hKeyword keyword ((getElem?_patchedLines_keyword_iff keyword).mpr h)
  · exact nearestKeyword_patchedLines_iff.mp hNearest
  · exact ⟨text, opening, hKept, hLine, hOpening⟩
  · exact ⟨schema, name, hNames.of_patchedLines, hMem⟩

theorem not_patches_patchedLines (columns : ColumnSet) (lines : List Text) :
    ¬ Patches columns (patchedLines columns lines) := by
  rw [patches_iff]
  rintro ⟨line, tableAlias, column, outputName, hasNext, h⟩
  exact not_aggregatesSketch_patchedLines h

/-- No cardinality line holds all of the separator, so the text is cut where it was joined. -/
theorem split_join_patchedLines {separator sql : Text} (hSplit : split separator sql = some lines)
    (hSeparator : ∃ c ∈ separator, isCardinalityChar c = false) (columns : ColumnSet) :
    split separator (join separator (patchedLines columns lines)) =
      some (patchedLines columns lines) := by
  have hne := ne_nil_of_split hSplit
  refine (split_eq_some_iff hne).mpr ⟨?_, rfl⟩
  refine ((split_eq_some_iff hne).mp hSplit).1.of_forall₂ hSeparator ?_
  refine List.forall₂_iff_get.mpr ⟨(length_patchedLines columns lines).symm, ?_⟩
  intro line hOld hNew
  rw [List.get_eq_getElem, List.get_eq_getElem]
  rcases getElem?_patchedLines_cases lines columns line with ⟨_, _, _, _, h, hLine⟩ | ⟨-, hKept⟩
  · obtain ⟨hAlias, hColumn, hOutput⟩ := h.isWord
    rw [List.getElem?_eq_getElem hNew] at hLine
    rw [Option.some.inj hLine]
    exact .inr (isCardinalityChar_of_mem hAlias hColumn hOutput)
  · rw [List.getElem?_eq_getElem hNew, List.getElem?_eq_getElem hOld] at hKept
    exact .inl (Option.some.inj hKept)

end QueryPatch
