import QueryPatch.Proofs.Line.Cardinality
import QueryPatch.Proofs.Query.Lines

/-! # Aggregations over sketch columns

Which lines of a query the standard rules replace, said of the lines alone. The clause of a line is
the keyword line nearest before it, and an alias means what its last declaration in the whole text
says, before or after the line.
-/
set_option autoImplicit false

namespace QueryPatch

open Text

/-- A line that declares the alias: a table after `from`, or an aggregation after `select`. -/
inductive DeclaresAlias (lines : List Text) (tableAlias : Text) (line : Nat) : Prop
  | table {text schema name : Text} :
      lines[line]? = some text → NearestKeyword lines line .source →
      TableLine (strip text) schema name tableAlias → DeclaresAlias lines tableAlias line
  | aggregation {text opening column outputName : Text} {hasNext : Bool} :
      lines[line]? = some text → NearestKeyword lines line .select →
      AggregationLine (strip text) opening tableAlias column outputName hasNext →
      DeclaresAlias lines tableAlias line

/-- The last line that declares the alias is a table line, and the table is this one. -/
def NamesTable (lines : List Text) (tableAlias schema name : Text) : Prop :=
  ∃ line text, lines[line]? = some text ∧ NearestKeyword lines line .source ∧
    TableLine (strip text) schema name tableAlias ∧
    ∀ later, line < later → ¬ DeclaresAlias lines tableAlias later

/-- The line sums or counts a sketch column. -/
structure AggregatesSketch (lines : List Text) (columns : ColumnSet) (line : Nat)
    (tableAlias column outputName : Text) (hasNext : Bool) : Prop where
  not_keyword : ∀ keyword : Keyword, lines[line]? ≠ some keyword.text
  after_select : NearestKeyword lines line .select
  aggregation : ∃ text opening, lines[line]? = some text ∧
    AggregationLine (strip text) opening tableAlias column outputName hasNext ∧
    (strip opening = "sum(".toList ∨ strip opening = "count(distinct".toList)
  sketch : ∃ schema name, NamesTable lines tableAlias schema name ∧
    (schema ++ "." ++ name ++ "." ++ column).map Char.toLower ∈ columns

theorem Text.toNat_lt_of_isWordChar {c : Char} (h : isWordChar c = true) : c.toNat < 0x80 := by
  unfold isWordChar Char.isAlphanum Char.isAlpha Char.isUpper Char.isLower Char.isDigit at h
  simp only [Bool.or_eq_true, beq_iff_eq, Bool.and_eq_true, decide_eq_true_eq,
    UInt32.le_iff_toNat_le, ge_iff_le] at h
  change ((65 ≤ c.toNat ∧ c.toNat ≤ 90 ∨ 97 ≤ c.toNat ∧ c.toNat ≤ 122) ∨
    48 ≤ c.toNat ∧ c.toNat ≤ 57) ∨ c = '_' at h
  rcases h with ((h | h) | h) | rfl
  · omega
  · omega
  · omega
  · decide

theorem columnKey_of_isWord {schema name column : Text} {attributes : Attributes}
    (hSchema : attributes.schema = some schema) (hName : attributes.table = some name)
    (isWord_schema : IsWord schema) (isWord_name : IsWord name) (isWord_column : IsWord column) :
    columnKey attributes (some column) =
      (schema ++ "." ++ name ++ "." ++ column).map Char.toLower := by
  rw [columnKey, hSchema, hName]
  apply lowercase_of_ascii
  have hDot : ∀ c ∈ ".".toList, c.toNat < 0x80 := by
    intro c hc
    obtain rfl : c = '.' := List.mem_singleton.mp hc
    decide
  intro c hc
  simp only [shown, Option.getD_some, List.mem_append] at hc
  rcases hc with (((hc | hc) | hc) | hc) | hc
  · exact toNat_lt_of_isWordChar (isWord_schema.2 c hc)
  · exact hDot c hc
  · exact toNat_lt_of_isWordChar (isWord_name.2 c hc)
  · exact hDot c hc
  · exact toNat_lt_of_isWordChar (isWord_column.2 c hc)

section lines

variable {lines : List Text} {columns : ColumnSet} {line : Nat} {reading : Reading}
  {tableAlias column : Text}

theorem mem_aliases_iff_declaresAlias
    (h : (readLines Recogniser.standard .outside lines)[line]? = some reading) :
    tableAlias ∈ reading.aliases ↔ DeclaresAlias lines tableAlias line := by
  obtain ⟨text, hText, hRead⟩ := read_of_getElem? h
  rw [hRead.mem_aliases_iff]
  constructor
  · rintro (⟨hClause, schema, name, hTable⟩ |
      ⟨hClause, opening, column, outputName, hasNext, hLine⟩)
    · exact .table hText (Clause.after_take_eq_source_iff.mp hClause) hTable
    · exact .aggregation hText (Clause.after_take_eq_select_iff.mp hClause) hLine
  · intro hDeclares
    cases hDeclares with
    | table hText' hNearest hTable =>
      rw [hText] at hText'
      cases hText'
      exact .inl ⟨Clause.after_take_eq_source_iff.mpr hNearest, _, _, hTable⟩
    | aggregation hText' hNearest hLine =>
      rw [hText] at hText'
      cases hText'
      exact .inr ⟨Clause.after_take_eq_select_iff.mpr hNearest, _, _, _, _, hLine⟩

theorem declaresAlias_lt (h : DeclaresAlias lines tableAlias line) : line < lines.length := by
  cases h with
  | table hText | aggregation hText => exact (List.getElem?_eq_some_iff.mp hText).1

theorem lastDeclaration_iff :
    LastDeclaration (·.aliases) (readLines Recogniser.standard .outside lines) tableAlias line
        reading ↔
      (readLines Recogniser.standard .outside lines)[line]? = some reading ∧
        DeclaresAlias lines tableAlias line ∧
        ∀ later, line < later → ¬ DeclaresAlias lines tableAlias later := by
  constructor
  · rintro ⟨hHere, hDeclares, hLater⟩
    refine ⟨hHere, (mem_aliases_iff_declaresAlias hHere).mp hDeclares, fun later hLess h => ?_⟩
    have hLength : later < (readLines Recogniser.standard .outside lines).length := by
      rw [length_readLines]
      exact declaresAlias_lt h
    have hOther := List.getElem?_eq_getElem hLength
    exact hLater later _ hLess hOther ((mem_aliases_iff_declaresAlias hOther).mpr h)
  · rintro ⟨hHere, hDeclares, hLater⟩
    refine ⟨hHere, (mem_aliases_iff_declaresAlias hHere).mpr hDeclares, ?_⟩
    exact fun later other hLess hOther h =>
      hLater later hLess ((mem_aliases_iff_declaresAlias hOther).mp h)

theorem overSketch_iff {fragment : Fragment}
    (hAlias : fragment.attributes.tableAlias = some tableAlias)
    (hColumn : fragment.attributes.column = some column) (isWord_column : IsWord column) :
    (Query.ofLines lines).overSketch columns fragment = true ↔
      ∃ schema name, NamesTable lines tableAlias schema name ∧
        (schema ++ "." ++ name ++ "." ++ column).map Char.toLower ∈ columns := by
  rw [Query.overSketch, hAlias, hColumn]
  constructor
  · intro h
    split at h
    · rename_i table hTable
      rw [Bool.and_eq_true, decide_eq_true_eq, List.contains_iff_mem] at h
      obtain ⟨hRole, hMem⟩ := h
      obtain ⟨line, reading, hLast, rfl⟩ := Query.declaring?_ofReadings_eq_some_iff.mp hTable
      obtain ⟨hHere, -, hLater⟩ := lastDeclaration_iff.mp hLast
      obtain ⟨text, hText, hRead⟩ := read_of_getElem? hHere
      have hDeclares := hLast.declares
      cases hRead with
      | aggregation => cases hRole
      | table hClause hLine =>
        obtain rfl := List.mem_singleton.mp hDeclares
        rw [columnKey_of_isWord rfl rfl hLine.schema_isWord hLine.name_isWord isWord_column] at hMem
        have hNearest := Clause.after_take_eq_source_iff.mp hClause
        exact ⟨_, _, ⟨line, text, hText, hNearest, hLine, hLater⟩, hMem⟩
      | other _ _ hNeutral => exact absurd hRole hNeutral.not_table
    · cases h
  · rintro ⟨schema, name, ⟨line, text, hText, hNearest, hLine, hLater⟩, hMem⟩
    obtain ⟨reading, hHere⟩ : ∃ reading,
        (readLines Recogniser.standard .outside lines)[line]? = some reading :=
      ⟨_, getElem?_standard_eq_some_iff.mpr ⟨text, hText, rfl⟩⟩
    have hLast := lastDeclaration_iff.mpr ⟨hHere, .table hText hNearest hLine, hLater⟩
    obtain ⟨text', hText', hRead⟩ := read_of_getElem? hHere
    rw [hText] at hText'
    cases hText'
    rw [Clause.after_take_eq_source_iff.mpr hNearest] at hRead
    obtain rfl := hRead.eq_of_tableLine hLine
    rw [Query.ofLines, Query.declaring?_ofReadings_eq_some_iff.mpr ⟨line, _, hLast, rfl⟩]
    dsimp only
    rw [columnKey_of_isWord rfl rfl hLine.schema_isWord hLine.name_isWord isWord_column,
      Bool.and_eq_true, decide_eq_true_eq, List.contains_iff_mem]
    exact ⟨rfl, hMem⟩

theorem contains_unsupportedAggregations_iff {function : Text} :
    unsupportedAggregations.contains function = true ↔
      function = "sum(".toList ∨ function = "count(distinct".toList := by
  rw [List.contains_iff_mem, unsupportedAggregations, List.mem_cons, List.mem_singleton]
  exact or_comm

theorem AggregationLine.not_keyword {text opening outputName : Text} {hasNext : Bool}
    (h : AggregationLine (strip text) opening tableAlias column outputName hasNext)
    (keyword : Keyword) : text ≠ keyword.text := by
  rintro rfl
  have hShape := keyword.aggregation?_strip_text
  rw [Shape.aggregation?_eq_some_iff.mpr ⟨_, _, _, _, _, h, rfl⟩] at hShape
  cases hShape

/-- The rule replaces the line of a reading exactly if the line sums or counts a sketch column. -/
theorem cardinality?_eq_some_iff {new : Text}
    (h : (readLines Recogniser.standard .outside lines)[line]? = some reading) :
    (Query.ofLines lines).cardinality? columns reading.fragment = some new ↔
      ∃ tableAlias column outputName hasNext,
        AggregatesSketch lines columns line tableAlias column outputName hasNext ∧
          new = cardinalityLine tableAlias column outputName hasNext := by
  obtain ⟨text, hText, hRead⟩ := read_of_getElem? h
  rw [Query.cardinality?]
  constructor
  · intro hNew
    split at hNew
    · rename_i hBoth
      rw [Bool.and_eq_true, Query.sums, Bool.and_eq_true, decide_eq_true_eq] at hBoth
      obtain ⟨⟨hRole, hFunction⟩, hSketch⟩ := hBoth
      cases hRead with
      | aggregation hClause hLine =>
        refine ⟨_, _, _, _, ⟨?_, Clause.after_take_eq_select_iff.mp hClause, ?_, ?_⟩,
          (Option.some.inj hNew).symm⟩
        · rw [hText]
          exact fun keyword hKeyword => hLine.not_keyword keyword (Option.some.inj hKeyword)
        · exact ⟨text, _, hText, hLine, contains_unsupportedAggregations_iff.mp hFunction⟩
        · exact (overSketch_iff rfl rfl hLine.column_isWord).mp hSketch
      | table => cases hRole
      | other _ _ hNeutral => exact absurd hRole hNeutral.not_aggregation
    · cases hNew
  · rintro ⟨tableAlias, column, outputName, hasNext, ⟨-, hNearest, hLine, hSketch⟩, rfl⟩
    obtain ⟨text', opening, hText', hLine, hOpening⟩ := hLine
    rw [hText] at hText'
    cases hText'
    rw [Clause.after_take_eq_select_iff.mpr hNearest] at hRead
    have hReading := hRead.eq_of_aggregationLine hLine
    have hAttributes : reading.fragment.attributes =
        Shape.attributes (.aggregation (strip opening) tableAlias column outputName hasNext) := by
      rw [hReading]
      rfl
    have hOver : (Query.ofLines lines).overSketch columns reading.fragment = true :=
      (overSketch_iff (by rw [hAttributes]; rfl) (by rw [hAttributes]; rfl)
        hLine.column_isWord).mpr hSketch
    have hSums : Query.sums reading.fragment = true := by
      rw [Query.sums, hAttributes, hReading]
      exact contains_unsupportedAggregations_iff.mpr hOpening
    rw [hSums, hOver, hAttributes]
    rfl

/-- Each line is replaced or kept. -/
theorem getElem?_patchedLines_cases (lines : List Text) (columns : ColumnSet) (line : Nat) :
    (∃ tableAlias column outputName hasNext,
      AggregatesSketch lines columns line tableAlias column outputName hasNext ∧
        (patchedLines columns lines)[line]? =
          some (cardinalityLine tableAlias column outputName hasNext)) ∨
      (∀ tableAlias column outputName hasNext,
        ¬ AggregatesSketch lines columns line tableAlias column outputName hasNext) ∧
        (patchedLines columns lines)[line]? = lines[line]? := by
  cases hReading : (readLines Recogniser.standard .outside lines)[line]? with
  | none =>
    have hLength := List.getElem?_eq_none_iff.mp hReading
    rw [length_readLines] at hLength
    refine .inr ⟨fun tableAlias column outputName hasNext h => ?_, ?_⟩
    · obtain ⟨text, _, hText, -⟩ := h.aggregation
      exact absurd (List.getElem?_eq_some_iff.mp hText).1 (Nat.not_lt.mpr hLength)
    · rw [List.getElem?_eq_none hLength, List.getElem?_eq_none]
      rwa [length_patchedLines]
  | some reading =>
    obtain ⟨text, hText, hRead⟩ := read_of_getElem? hReading
    rw [getElem?_patchedLines hReading, hRead.text_eq, hText]
    cases hNew : (Query.ofLines lines).cardinality? columns reading.fragment with
    | some new =>
      obtain ⟨_, _, _, _, h, rfl⟩ := (cardinality?_eq_some_iff hReading).mp hNew
      exact .inl ⟨_, _, _, _, h, rfl⟩
    | none =>
      refine .inr ⟨fun tableAlias column outputName hasNext h => ?_, rfl⟩
      rw [(cardinality?_eq_some_iff hReading).mpr ⟨_, _, _, _, h, rfl⟩] at hNew
      cases hNew

theorem patches_iff : Patches columns lines ↔
    ∃ line tableAlias column outputName hasNext,
      AggregatesSketch lines columns line tableAlias column outputName hasNext := by
  constructor
  · rintro ⟨fragment, hFragment, hSome⟩
    obtain ⟨reading, hReading, rfl⟩ := List.mem_map.mp hFragment
    obtain ⟨line, hLine⟩ := List.mem_iff_getElem?.mp hReading
    obtain ⟨new, hNew⟩ := Option.isSome_iff_exists.mp hSome
    obtain ⟨_, _, _, _, h, -⟩ := (cardinality?_eq_some_iff hLine).mp hNew
    exact ⟨line, _, _, _, _, h⟩
  · rintro ⟨line, tableAlias, column, outputName, hasNext, h⟩
    obtain ⟨text, _, hText, -⟩ := h.aggregation
    have hLine := getElem?_standard_eq_some_iff.mpr ⟨text, hText, rfl⟩
    refine ⟨_, List.mem_map_of_mem (List.mem_of_getElem? hLine), ?_⟩
    rw [(cardinality?_eq_some_iff hLine).mpr ⟨_, _, _, _, h, rfl⟩]
    rfl

namespace AggregatesSketch

variable {outputName tableAlias' column' outputName' : Text} {hasNext hasNext' : Bool}

theorem isWord (h : AggregatesSketch lines columns line tableAlias column outputName hasNext) :
    IsWord tableAlias ∧ IsWord column ∧ IsWord outputName := by
  obtain ⟨_, _, _, hLine, _⟩ := h.aggregation
  exact ⟨hLine.tableAlias_isWord, hLine.column_isWord, hLine.outputName_isWord⟩

theorem unique (h : AggregatesSketch lines columns line tableAlias column outputName hasNext)
    (h' : AggregatesSketch lines columns line tableAlias' column' outputName' hasNext') :
    tableAlias = tableAlias' ∧ column = column' ∧ outputName = outputName' ∧
      hasNext = hasNext' := by
  obtain ⟨_, _, hText, hLine, -⟩ := h.aggregation
  obtain ⟨_, _, hText', hLine', -⟩ := h'.aggregation
  rw [hText] at hText'
  cases hText'
  exact (hLine.unique hLine').2

end AggregatesSketch

end lines

end QueryPatch
