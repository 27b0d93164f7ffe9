import QueryPatch.Proofs.Line.Spelling
import QueryPatch.Proofs.Patch.Modification
import QueryPatch.Proofs.Query.Repatched

/-! # Queries in another spelling

A query can be written with other ASCII capitals in its names. As long as the aliases are declared
as before, the same lines aggregate sketch columns, and the same lines are replaced.
-/
set_option autoImplicit false

namespace QueryPatch

open Text

/-- Lines that differ at most in the spelling of their names, and that declare the same aliases in
the same spelling. -/
structure SpelledAlike (lines lines' : List Text) : Prop where
  respelled : List.Forall₂ Respelled lines lines'
  declares_iff : ∀ tableAlias line,
    DeclaresAlias lines tableAlias line ↔ DeclaresAlias lines' tableAlias line

section declares

variable {lines : List Text} {line : Nat} {text opening tableAlias tableAlias' schema name : Text}
  {column outputName : Text} {hasNext : Bool}

theorem DeclaresAlias.eq_of_tableLine (h : DeclaresAlias lines tableAlias line)
    (hText : lines[line]? = some text) (hNearest : NearestKeyword lines line .source)
    (hLine : TableLine (strip text) schema name tableAlias') : tableAlias = tableAlias' := by
  cases h with
  | table hText' _ hLine' =>
    obtain rfl := Option.some.inj (hText.symm.trans hText')
    exact (hLine'.unique hLine).2.2
  | aggregation _ hSelect => exact absurd hNearest hSelect.not_source

theorem DeclaresAlias.eq_of_aggregationLine (h : DeclaresAlias lines tableAlias line)
    (hText : lines[line]? = some text) (hNearest : NearestKeyword lines line .select)
    (hLine : AggregationLine (strip text) opening tableAlias' column outputName hasNext) :
    tableAlias = tableAlias' := by
  cases h with
  | table _ hSource => exact absurd hSource hNearest.not_source
  | aggregation hText' _ hLine' =>
    obtain rfl := Option.some.inj (hText.symm.trans hText')
    exact (hLine'.unique hLine).2.1

end declares

namespace SpelledAlike

variable {lines lines' : List Text} {columns : ColumnSet} {line : Nat} {text : Text}
  {tableAlias schema name column outputName : Text} {hasNext : Bool}

theorem symm (h : SpelledAlike lines lines') : SpelledAlike lines' lines where
  respelled := h.respelled.flip.imp fun _ _ => Respelled.symm
  declares_iff tableAlias line := (h.declares_iff tableAlias line).symm

theorem exists_getElem? (h : SpelledAlike lines lines') (hText : lines[line]? = some text) :
    ∃ text', lines'[line]? = some text' ∧ Respelled text text' := by
  obtain ⟨hLine, rfl⟩ := List.getElem?_eq_some_iff.mp hText
  have hLine' : line < lines'.length := h.respelled.length_eq ▸ hLine
  exact ⟨_, List.getElem?_eq_getElem hLine', h.respelled.get hLine hLine'⟩

theorem getElem?_keyword_iff (h : SpelledAlike lines lines') (keyword : Keyword) :
    lines[line]? = some keyword.text ↔ lines'[line]? = some keyword.text := by
  have hQuote : '"' ∉ keyword.text := by cases keyword <;> decide
  have hKept : ∀ {lines lines' : List Text}, SpelledAlike lines lines' →
      lines[line]? = some keyword.text → lines'[line]? = some keyword.text := by
    intro lines lines' h hText
    obtain ⟨text', hText', hSame⟩ := h.exists_getElem? hText
    rw [hText', (hSame.eq_iff_of_not_mem hQuote).mp rfl]
  exact ⟨hKept h, hKept h.symm⟩

theorem nearestKeyword_iff (h : SpelledAlike lines lines') {keyword : Keyword} :
    NearestKeyword lines line keyword ↔ NearestKeyword lines' line keyword := by
  simp only [NearestKeyword, ne_eq, h.getElem?_keyword_iff]

theorem namesTable (h : SpelledAlike lines lines')
    (hNames : NamesTable lines tableAlias schema name) :
    ∃ schema' name', NamesTable lines' tableAlias schema' name' ∧
      schema'.map Char.toLower = schema.map Char.toLower ∧
      name'.map Char.toLower = name.map Char.toLower := by
  obtain ⟨line, text, hText, hNearest, hLine, hLater⟩ := hNames
  obtain ⟨text', hText', hSame⟩ := h.exists_getElem? hText
  obtain ⟨schema', name', tableAlias', hLine', hSchema, hName⟩ := hSame.tableLine hLine
  -- the alias that the other line is read to declare is this one, in the same spelling
  have hDeclares := (h.declares_iff tableAlias line).mp (.table hText hNearest hLine)
  have hNearest' := h.nearestKeyword_iff.mp hNearest
  obtain rfl := hDeclares.eq_of_tableLine hText' hNearest' hLine'
  refine ⟨schema', name', ⟨line, text', hText', hNearest', hLine', fun later hLess => ?_⟩, hSchema,
    hName⟩
  exact fun hOther => hLater later hLess ((h.declares_iff tableAlias later).mpr hOther)

theorem aggregatesSketch (h : SpelledAlike lines lines')
    (hSketch : AggregatesSketch lines columns line tableAlias column outputName hasNext) :
    ∃ column' outputName',
      AggregatesSketch lines' columns line tableAlias column' outputName' hasNext := by
  obtain ⟨hKeyword, hNearest, ⟨text, opening, hText, hLine, hOpening⟩, schema, name, hNames,
    hMem⟩ := hSketch
  obtain ⟨text', hText', hSame⟩ := h.exists_getElem? hText
  obtain ⟨opening', tableAlias', column', outputName', hLine', hOpening', hColumn⟩ :=
    hSame.aggregationLine hLine
  have hDeclares := (h.declares_iff tableAlias line).mp (.aggregation hText hNearest hLine)
  have hNearest' := h.nearestKeyword_iff.mp hNearest
  obtain rfl := hDeclares.eq_of_aggregationLine hText' hNearest' hLine'
  obtain ⟨schema', name', hNames', hSchema, hName⟩ := h.namesTable hNames
  refine ⟨column', outputName', ?_, hNearest', ⟨text', opening', hText', hLine', ?_⟩, schema',
    name', hNames', ?_⟩
  · exact fun keyword hHere => hKeyword keyword ((h.getElem?_keyword_iff keyword).mpr hHere)
  · rwa [hOpening']
  · simpa only [List.map_append, hSchema, hName, hColumn] using hMem

theorem isSome_cardinality?_eq (h : SpelledAlike lines lines') {reading reading' : Reading}
    (hReading : (readLines Recogniser.standard .outside lines)[line]? = some reading)
    (hReading' : (readLines Recogniser.standard .outside lines')[line]? = some reading') :
    ((Query.ofLines lines).cardinality? columns reading.fragment).isSome =
      ((Query.ofLines lines').cardinality? columns reading'.fragment).isSome := by
  rw [Bool.eq_iff_iff, Option.isSome_iff_exists, Option.isSome_iff_exists]
  simp only [cardinality?_eq_some_iff hReading, cardinality?_eq_some_iff hReading']
  constructor
  · rintro ⟨_, _, _, _, _, hSketch, -⟩
    obtain ⟨_, _, hSketch'⟩ := h.aggregatesSketch hSketch
    exact ⟨_, _, _, _, _, hSketch', rfl⟩
  · rintro ⟨_, _, _, _, _, hSketch, -⟩
    obtain ⟨_, _, hSketch'⟩ := h.symm.aggregatesSketch hSketch
    exact ⟨_, _, _, _, _, hSketch', rfl⟩

theorem patches_iff (h : SpelledAlike lines lines') :
    Patches columns lines ↔ Patches columns lines' := by
  rw [QueryPatch.patches_iff, QueryPatch.patches_iff]
  constructor
  · rintro ⟨line, tableAlias, _, _, hasNext, hSketch⟩
    obtain ⟨_, _, hSketch'⟩ := h.aggregatesSketch hSketch
    exact ⟨line, tableAlias, _, _, hasNext, hSketch'⟩
  · rintro ⟨line, tableAlias, _, _, hasNext, hSketch⟩
    obtain ⟨_, _, hSketch'⟩ := h.symm.aggregatesSketch hSketch
    exact ⟨line, tableAlias, _, _, hasNext, hSketch'⟩

end SpelledAlike

/-- Queries of equally many lines that are replaced in the same places. -/
theorem Query.map_fst_replacements_eq {query query' : Query}
    (h : List.Forall₂ (fun fragment fragment' =>
      fragment.replacement.isSome = fragment'.replacement.isSome) query.fragments
        query'.fragments) :
    query.replacements.map (·.1) = query'.replacements.map (·.1) := by
  rw [replacements, replacements]
  generalize query.fragments = fragments at h
  generalize query'.fragments = fragments' at h
  generalize 0 = start
  induction h generalizing start with
  | nil => rfl
  | @cons fragment fragment' _ _ hSame _ ih =>
    rw [List.zipIdx_cons, List.zipIdx_cons, List.filterMap_cons, List.filterMap_cons]
    dsimp only
    cases hReplacement : fragment.replacement <;> cases hReplacement' : fragment'.replacement <;>
      rw [hReplacement, hReplacement'] at hSame
    · exact ih (start + 1)
    · cases hSame
    · cases hSame
    · exact congrArg (start :: ·) (ih (start + 1))

theorem SpelledAlike.map_fst_replacements_eq {lines lines' : List Text}
    (h : SpelledAlike lines lines') (columns : ColumnSet) :
    (Query.edited columns lines).replacements.map (·.1) =
      (Query.edited columns lines').replacements.map (·.1) := by
  apply Query.map_fst_replacements_eq
  simp only [Query.edited, Query.replaced, List.forall₂_map_left_iff, List.forall₂_map_right_iff]
  have hLength := h.respelled.length_eq
  rw [← length_readLines Recogniser.standard .outside lines,
    ← length_readLines Recogniser.standard .outside lines'] at hLength
  refine List.forall₂_map_left_iff.mpr (List.forall₂_map_right_iff.mpr
    (List.forall₂_iff_get.mpr ⟨hLength, fun line hLine hLine' => ?_⟩))
  exact h.isSome_cardinality?_eq (List.getElem?_eq_getElem hLine) (List.getElem?_eq_getElem hLine')

/-- Aliases can be compared as they were read. -/
theorem declaresAlias_iff_of_readLines {lines lines' : List Text}
    (h : (readLines Recogniser.standard .outside lines).map (·.aliases) =
      (readLines Recogniser.standard .outside lines').map (·.aliases))
    (tableAlias : Text) (line : Nat) :
    DeclaresAlias lines tableAlias line ↔ DeclaresAlias lines' tableAlias line := by
  have hAliases (lines : List Text) : DeclaresAlias lines tableAlias line ↔
      ∃ aliases, ((readLines Recogniser.standard .outside lines).map (·.aliases))[line]? =
        some aliases ∧ tableAlias ∈ aliases := by
    rw [List.getElem?_map]
    cases hReading : (readLines Recogniser.standard .outside lines)[line]? with
    | none =>
      rw [List.getElem?_eq_none_iff, length_readLines] at hReading
      constructor
      · exact fun h => absurd (declaresAlias_lt h) (Nat.not_lt.mpr hReading)
      · rintro ⟨_, hNone, -⟩
        cases hNone
    | some reading => simp [← mem_aliases_iff_declaresAlias hReading]
  rw [hAliases, hAliases, h]

end QueryPatch
