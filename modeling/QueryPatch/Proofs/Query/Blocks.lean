import QueryPatch.Proofs.Query.Sketch

/-! # Queries in blocks

Lines that begin with a keyword are read alike whatever stands before them, so two blocks of lines
share nothing but their aliases. A line looks up the alias that it declares itself: in the later
block it finds what it finds there alone, in the earlier one perhaps a declaration of the later.
-/
set_option autoImplicit false

namespace QueryPatch

open Text

theorem readLines_append (recognisers : List Recogniser) (clause : Clause)
    (lines later : List Text) :
    readLines recognisers clause (lines ++ later) =
      readLines recognisers clause lines ++ readLines recognisers (clause.after lines) later := by
  induction lines generalizing clause with
  | nil => rfl
  | cons line rest ih =>
    rw [List.cons_append, readLines_cons, readLines_cons, ih]
    rfl

theorem readLines_keyword (recognisers : List Recogniser) (clause clause' : Clause)
    (keyword : Keyword) (rest : List Text) :
    readLines recognisers clause (keyword.text :: rest) =
      readLines recognisers clause' (keyword.text :: rest) := by
  simp only [readLines, Keyword.ofText?_text]

/-- Two lines that declare an alias to the same effect: the same table in any case of its ASCII
letters, or no table at all. -/
inductive Fragment.Alike (first second : Fragment) : Prop
  | table :
      first.role = .table → second.role = .table →
      first.attributes.schema.map (·.map Char.toLower) =
        second.attributes.schema.map (·.map Char.toLower) →
      first.attributes.table.map (·.map Char.toLower) =
        second.attributes.table.map (·.map Char.toLower) →
      Alike first second
  | aggregation : first.role = .aggregation → second.role = .aggregation → Alike first second

namespace Query

theorem declaring?_concat (readings : List Reading) (last : Reading) (tableAlias : Text) :
    (ofReadings (readings ++ [last])).declaring? (some tableAlias) =
      if tableAlias ∈ last.aliases then some last.fragment
      else (ofReadings readings).declaring? (some tableAlias) := by
  apply Option.ext
  intro fragment
  simp only [declaring?_ofReadings_eq_some_iff, lastDeclaration_concat_iff]
  split
  · rename_i hLast
    simp [hLast, eq_comm]
  · rename_i hLast
    simp [hLast, declaring?_ofReadings_eq_some_iff]

theorem declaring?_append (readings later : List Reading) (tableAlias : Text) :
    (ofReadings (readings ++ later)).declaring? (some tableAlias) =
      ((ofReadings later).declaring? (some tableAlias)).or
        ((ofReadings readings).declaring? (some tableAlias)) := by
  induction later using List.reverseRecOn with
  | nil =>
    rw [List.append_nil]
    rfl
  | append_singleton later last ih =>
    rw [← List.append_assoc, declaring?_concat, declaring?_concat, ih]
    split <;> rfl

theorem exists_declaring {readings : List Reading} {reading : Reading} {tableAlias : Text}
    (h : reading ∈ readings) (hAlias : tableAlias ∈ reading.aliases) :
    ∃ fragment, (ofReadings readings).declaring? (some tableAlias) = some fragment := by
  induction readings using List.reverseRecOn with
  | nil => cases h
  | append_singleton readings last ih =>
    rw [declaring?_concat]
    split
    · exact ⟨_, rfl⟩
    · rename_i hLast
      rcases List.mem_append.mp h with h | h
      · exact ih h
      · obtain rfl := List.mem_singleton.mp h
        exact absurd hAlias hLast

theorem mem_of_declaring? {readings : List Reading} {tableAlias : Text} {fragment : Fragment}
    (h : (ofReadings readings).declaring? (some tableAlias) = some fragment) :
    fragment ∈ (ofReadings readings).fragments := by
  obtain ⟨line, reading, hLast, rfl⟩ := declaring?_ofReadings_eq_some_iff.mp h
  exact List.mem_map_of_mem (List.mem_of_getElem? hLast.here)

end Query

section fragments

variable {lines : List Text} {fragment : Fragment}

theorem read_of_mem_fragments (h : fragment ∈ (Query.ofLines lines).fragments) :
    ∃ clause text reading, Read clause text reading ∧ fragment = reading.fragment ∧
      reading ∈ readLines Recogniser.standard .outside lines := by
  obtain ⟨reading, hReading, rfl⟩ := List.mem_map.mp h
  obtain ⟨line, hLine⟩ := List.mem_iff_getElem?.mp hReading
  obtain ⟨text, -, hRead⟩ := read_of_getElem? hLine
  exact ⟨_, text, reading, hRead, rfl, hReading⟩

theorem exists_alias_of_aggregation (h : fragment ∈ (Query.ofLines lines).fragments)
    (hRole : fragment.role = .aggregation) :
    ∃ tableAlias column, fragment.attributes.tableAlias = some tableAlias ∧
      fragment.attributes.column = some column ∧ IsWord column ∧
      ∃ declaring, (Query.ofLines lines).declaring? (some tableAlias) = some declaring := by
  obtain ⟨clause, text, reading, hRead, rfl, hReading⟩ := read_of_mem_fragments h
  cases hRead with
  | aggregation _ hLine =>
    exact ⟨_, _, rfl, rfl, hLine.column_isWord,
      Query.exists_declaring hReading (List.mem_singleton_self _)⟩
  | table => cases hRole
  | other _ _ hNeutral => exact absurd hRole hNeutral.not_aggregation

theorem exists_names_of_table (h : fragment ∈ (Query.ofLines lines).fragments)
    (hRole : fragment.role = .table) :
    ∃ schema name, fragment.attributes.schema = some schema ∧
      fragment.attributes.table = some name ∧ IsWord schema ∧ IsWord name := by
  obtain ⟨clause, text, reading, hRead, rfl, -⟩ := read_of_mem_fragments h
  cases hRead with
  | aggregation => cases hRole
  | table _ hLine => exact ⟨_, _, rfl, rfl, hLine.schema_isWord, hLine.name_isWord⟩
  | other _ _ hNeutral => exact absurd hRole hNeutral.not_table

/-- Alike declarations make the same columns sketch columns. -/
theorem Fragment.Alike.contains_columnKey_eq {later : List Text} {table table' : Fragment}
    (h : table.Alike table') (hTable : table ∈ (Query.ofLines lines).fragments)
    (hTable' : table' ∈ (Query.ofLines later).fragments) {column : Text} (hColumn : IsWord column)
    (columns : ColumnSet) :
    (table'.role = .table && columns.contains (columnKey table'.attributes (some column))) =
      (table.role = .table && columns.contains (columnKey table.attributes (some column))) := by
  cases h with
  | table hRole hRole' hSchemas hNames =>
    obtain ⟨schema, name, hSchema, hName, isWord_schema, isWord_name⟩ :=
      exists_names_of_table hTable hRole
    obtain ⟨schema', name', hSchema', hName', isWord_schema', isWord_name'⟩ :=
      exists_names_of_table hTable' hRole'
    rw [hSchema, hSchema', Option.map_some, Option.map_some, Option.some.injEq] at hSchemas
    rw [hName, hName', Option.map_some, Option.map_some, Option.some.injEq] at hNames
    rw [columnKey_of_isWord hSchema hName isWord_schema isWord_name hColumn,
      columnKey_of_isWord hSchema' hName' isWord_schema' isWord_name' hColumn, hRole, hRole']
    simp only [List.map_append, hSchemas, hNames]
  | aggregation hRole hRole' => simp [hRole, hRole']

end fragments

namespace Query

variable {lines later : List Text} {columns : ColumnSet} {fragment : Fragment}

theorem overSketch_of_declaring? {query : Query} {declaring : Fragment}
    (h : query.declaring? fragment.attributes.tableAlias = some declaring) :
    query.overSketch columns fragment =
      (declaring.role = .table &&
        columns.contains (columnKey declaring.attributes fragment.attributes.column)) := by
  rw [overSketch, h]

theorem cardinality?_congr {query query' : Query}
    (h : fragment.role = .aggregation →
      query.overSketch columns fragment = query'.overSketch columns fragment) :
    query.cardinality? columns fragment = query'.cardinality? columns fragment := by
  rw [cardinality?, cardinality?]
  by_cases hRole : fragment.role = .aggregation
  · rw [h hRole]
  · simp [sums, hRole]

/-- In the earlier block an alias may come to mean what the later block says. -/
theorem cardinality?_append_left (hFragment : fragment ∈ (ofLines lines).fragments)
    (hAlike : ∀ tableAlias table table',
      (ofLines lines).declaring? (some tableAlias) = some table →
      (ofLines later).declaring? (some tableAlias) = some table' → table.Alike table') :
    (ofReadings (readLines Recogniser.standard .outside lines ++
        readLines Recogniser.standard .outside later)).cardinality? columns fragment =
      (ofLines lines).cardinality? columns fragment := by
  apply cardinality?_congr
  intro hRole
  obtain ⟨tableAlias, column, hAlias, hColumn, isWord_column, table, hTable⟩ :=
    exists_alias_of_aggregation hFragment hRole
  have hBoth := declaring?_append (readLines Recogniser.standard .outside lines)
    (readLines Recogniser.standard .outside later) tableAlias
  change _ = Option.or ((ofLines later).declaring? (some tableAlias))
    ((ofLines lines).declaring? (some tableAlias)) at hBoth
  rw [← hAlias] at hBoth hTable
  rw [overSketch_of_declaring? hTable, hColumn]
  cases hLater : (ofLines later).declaring? fragment.attributes.tableAlias with
  | none =>
    rw [hLater, Option.none_or, hTable] at hBoth
    rw [overSketch_of_declaring? hBoth, hColumn]
  | some table' =>
    rw [hLater, Option.some_or] at hBoth
    rw [overSketch_of_declaring? hBoth, hColumn]
    rw [hAlias] at hTable hLater
    exact (hAlike tableAlias table table' hTable hLater).contains_columnKey_eq
      (mem_of_declaring? hTable) (mem_of_declaring? hLater) isWord_column columns

theorem cardinality?_append_right (hFragment : fragment ∈ (ofLines later).fragments) :
    (ofReadings (readLines Recogniser.standard .outside lines ++
        readLines Recogniser.standard .outside later)).cardinality? columns fragment =
      (ofLines later).cardinality? columns fragment := by
  apply cardinality?_congr
  intro hRole
  obtain ⟨tableAlias, -, hAlias, -, -, table, hTable⟩ :=
    exists_alias_of_aggregation hFragment hRole
  have hBoth := declaring?_append (readLines Recogniser.standard .outside lines)
    (readLines Recogniser.standard .outside later) tableAlias
  change _ = Option.or ((ofLines later).declaring? (some tableAlias)) _ at hBoth
  rw [hTable, Option.some_or] at hBoth
  rw [← hAlias] at hBoth hTable
  rw [overSketch_of_declaring? hBoth, overSketch_of_declaring? hTable]

end Query

theorem patchedLines_append {lines rest : List Text} {keyword : Keyword} (columns : ColumnSet)
    (hAlike : ∀ tableAlias table table',
      (Query.ofLines lines).declaring? (some tableAlias) = some table →
      (Query.ofLines (keyword.text :: rest)).declaring? (some tableAlias) = some table' →
      table.Alike table') :
    patchedLines columns (lines ++ keyword.text :: rest) =
      patchedLines columns lines ++ patchedLines columns (keyword.text :: rest) := by
  have hReadings : Query.ofLines (lines ++ keyword.text :: rest) =
      .ofReadings (readLines Recogniser.standard .outside lines ++
        readLines Recogniser.standard .outside (keyword.text :: rest)) := by
    rw [Query.ofLines, readLines_append, readLines_keyword _ _ .outside]
  have hFragments : (Query.ofLines (lines ++ keyword.text :: rest)).fragments =
      (Query.ofLines lines).fragments ++ (Query.ofLines (keyword.text :: rest)).fragments := by
    rw [hReadings, Query.ofReadings, List.map_append]
    rfl
  rw [patchedLines, hFragments, List.map_append, hReadings]
  congr 1 <;> apply List.map_congr_left <;> intro fragment hFragment
  · rw [Query.cardinality?_append_left hFragment hAlike]
  · rw [Query.cardinality?_append_right hFragment]

end QueryPatch
