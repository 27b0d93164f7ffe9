import QueryPatch.Proofs.Query.Blocks
import QueryPatch.Proofs.Query.Classification
import QueryPatch.Proofs.Query.Spelling

/-! # Keys of columns

The key of a column is schema, table and column with points between, in lower case. Names have no
points, so a key belongs to one column up to ASCII capitals, and what is not in the form of a key
belongs to none.
-/
set_option autoImplicit false

namespace QueryPatch

open Text

/-- Three words with points between, without ASCII capitals. -/
def IsColumnKey (entry : Text) : Prop :=
  (∃ schema name column, IsWord schema ∧ IsWord name ∧ IsWord column ∧
    entry = schema ++ "." ++ name ++ "." ++ column) ∧ ∀ c ∈ entry, c.isUpper = false

namespace Fragment

/-- The fragment is a line of a query that was read. -/
def IsRead (fragment : Fragment) : Prop :=
  ∃ separator sql query, Query.ofText? separator sql = .ok query ∧ fragment ∈ query.fragments

def NamesColumn (fragment : Fragment) (column : Text) : Prop :=
  fragment.attributes.column = some column ∨ fragment.attributes.joinedColumn = some column

/-- The names of schema and table are the same but for the case of ASCII letters. -/
structure SameTable (table table' : Fragment) : Prop where
  schema_eq : table.attributes.schema.map (·.map Char.toLower) =
    table'.attributes.schema.map (·.map Char.toLower)
  table_eq : table.attributes.table.map (·.map Char.toLower) =
    table'.attributes.table.map (·.map Char.toLower)

end Fragment

section words

variable {word word' rest rest' : Text}

theorem Text.IsWord.append_inj (h : IsWord word) (h' : IsWord word')
    (hRest : ∀ c ∈ rest.head?, isWordChar c = false)
    (hRest' : ∀ c ∈ rest'.head?, isWordChar c = false) (hSame : word ++ rest = word' ++ rest') :
    word = word' ∧ rest = rest' := by
  have hRead := word?_eq_some_iff.mpr ⟨h, rfl, hRest⟩
  rw [hSame, word?_eq_some_iff.mpr ⟨h', rfl, hRest'⟩] at hRead
  cases hRead
  exact ⟨rfl, rfl⟩

theorem Text.IsWord.map_toLower (h : IsWord word) : IsWord (word.map Char.toLower) :=
  (isWord_map isWordChar_toLower).mpr h

/-- Two columns, each with the names of schema, table and column, have the same key. -/
theorem dotted_map_toLower_inj {schema name column schema' name' column' : Text}
    (isWord_schema : IsWord schema) (isWord_name : IsWord name)
    (isWord_schema' : IsWord schema') (isWord_name' : IsWord name') :
    (schema ++ "." ++ name ++ "." ++ column).map Char.toLower =
        (schema' ++ "." ++ name' ++ "." ++ column').map Char.toLower ↔
      schema.map Char.toLower = schema'.map Char.toLower ∧
        name.map Char.toLower = name'.map Char.toLower ∧
        column.map Char.toLower = column'.map Char.toLower := by
  have hPoint (rest : Text) : ∀ c ∈ (".".toList.map Char.toLower ++ rest).head?,
      isWordChar c = false := by
    rintro c ⟨⟩
    decide
  simp only [List.map_append, List.append_assoc]
  constructor
  · -- no word has a point, so both texts are taken apart at the same points
    intro h
    obtain ⟨hSchema, h⟩ := isWord_schema.map_toLower.append_inj isWord_schema'.map_toLower
      (hPoint _) (hPoint _) h
    obtain ⟨hName, h⟩ := isWord_name.map_toLower.append_inj isWord_name'.map_toLower
      (hPoint _) (hPoint _) (List.append_cancel_left h)
    exact ⟨hSchema, hName, List.append_cancel_left h⟩
  · rintro ⟨hSchema, hName, hColumn⟩
    rw [hSchema, hName, hColumn]

theorem isColumnKey_map_toLower {schema name column : Text} (isWord_schema : IsWord schema)
    (isWord_name : IsWord name) (isWord_column : IsWord column) :
    IsColumnKey ((schema ++ "." ++ name ++ "." ++ column).map Char.toLower) := by
  refine ⟨⟨_, _, _, isWord_schema.map_toLower, isWord_name.map_toLower, isWord_column.map_toLower,
    ?_⟩, ?_⟩
  · simp only [List.map_append]
    rfl
  · intro c hc
    obtain ⟨d, -, rfl⟩ := List.mem_map.mp hc
    exact isUpper_toLower d

end words

section read

variable {clause : Clause} {line : Text} {reading : Reading} {fragment : Fragment}

/-- All that a line is found to hold are words, apart from the opening of a call. -/
theorem Classified.isWord (h : Classified clause line reading) {field : Field} {value : Text}
    (hField : field ≠ .function) (hValue : reading.fragment.attributes.get field = some value) :
    IsWord value := by
  cases h with
  | keyword | plain => cases field <;> cases hValue
  | shape hFinds =>
    cases hFinds with
    | aggregation _ hLine =>
      cases field <;> cases hValue
      · exact hLine.tableAlias_isWord
      · exact hLine.column_isWord
      · exact absurd rfl hField
      · exact hLine.outputName_isWord
    | table _ hLine =>
      cases field <;> cases hValue
      · exact hLine.schema_isWord
      · exact hLine.name_isWord
      · exact hLine.tableAlias_isWord
    | join _ hLine =>
      cases field <;> cases hValue
      · exact hLine.tableAlias_isWord
      · exact hLine.column_isWord
      · exact hLine.joinedAlias_isWord
      · exact hLine.joinedColumn_isWord
    | condition _ hLine =>
      cases field <;> cases hValue
      · exact hLine.tableAlias_isWord
      · exact hLine.column_isWord

theorem Fragment.IsRead.exists_lines (h : fragment.IsRead) :
    ∃ lines, fragment ∈ (Query.ofLines lines).fragments := by
  obtain ⟨separator, sql, query, hQuery, hMem⟩ := h
  obtain ⟨lines, -, rfl⟩ := Query.ofText?_eq_ok_iff.mp hQuery
  exact ⟨lines, hMem⟩

theorem Fragment.IsRead.isWord_column (h : fragment.IsRead) {column : Text}
    (hColumn : fragment.NamesColumn column) : IsWord column := by
  obtain ⟨lines, hMem⟩ := h.exists_lines
  obtain ⟨line, hLine⟩ := List.mem_iff_getElem?.mp hMem
  obtain ⟨reading, text, -, rfl, -, hClassified⟩ := Query.classified_of_getElem? hLine
  rcases hColumn with hColumn | hColumn
  · exact hClassified.isWord (by decide : Field.column ≠ .function) hColumn
  · exact hClassified.isWord (by decide : Field.joinedColumn ≠ .function) hColumn

theorem columnKey_eq_iff {table table' : Fragment} {column column' : Text} (h : table.IsRead)
    (h' : table'.IsRead) (hRole : table.role = .table) (hRole' : table'.role = .table)
    (isWord_column : IsWord column) (isWord_column' : IsWord column') :
    columnKey table.attributes (some column) = columnKey table'.attributes (some column') ↔
      table.SameTable table' ∧ column.map Char.toLower = column'.map Char.toLower := by
  obtain ⟨lines, hMem⟩ := h.exists_lines
  obtain ⟨lines', hMem'⟩ := h'.exists_lines
  obtain ⟨schema, name, hSchema, hName, isWord_schema, isWord_name⟩ :=
    exists_names_of_table hMem hRole
  obtain ⟨schema', name', hSchema', hName', isWord_schema', isWord_name'⟩ :=
    exists_names_of_table hMem' hRole'
  rw [columnKey_of_isWord hSchema hName isWord_schema isWord_name isWord_column,
    columnKey_of_isWord hSchema' hName' isWord_schema' isWord_name' isWord_column',
    dotted_map_toLower_inj isWord_schema isWord_name isWord_schema' isWord_name', ← and_assoc]
  apply and_congr_left'
  constructor
  · rintro ⟨hSchemas, hNames⟩
    refine ⟨?_, ?_⟩
    · rw [hSchema, hSchema', Option.map_some, Option.map_some, hSchemas]
    · rw [hName, hName', Option.map_some, Option.map_some, hNames]
  · rintro ⟨hSchemas, hNames⟩
    rw [hSchema, hSchema'] at hSchemas
    rw [hName, hName'] at hNames
    exact ⟨Option.some.inj hSchemas, Option.some.inj hNames⟩

end read

/-- Two sets with the same keys, whatever else is in them. -/
def ColumnSet.SameKeys (columns columns' : ColumnSet) : Prop :=
  ∀ key, IsColumnKey key → (key ∈ columns ↔ key ∈ columns')

namespace ColumnSet.SameKeys

variable {columns columns' : ColumnSet} {lines : List Text} {line : Nat}
  {tableAlias column outputName : Text} {hasNext : Bool}

theorem symm (h : SameKeys columns columns') : SameKeys columns' columns :=
  fun key hKey => (h key hKey).symm

theorem aggregatesSketch (h : SameKeys columns columns')
    (hSketch : AggregatesSketch lines columns line tableAlias column outputName hasNext) :
    AggregatesSketch lines columns' line tableAlias column outputName hasNext := by
  obtain ⟨hKeyword, hNearest, hLine, schema, name, hNames, hMem⟩ := id hSketch
  obtain ⟨_, _, _, _, hTable, _⟩ := id hNames
  have hKey := isColumnKey_map_toLower hTable.schema_isWord hTable.name_isWord hSketch.isWord.2.1
  exact ⟨hKeyword, hNearest, hLine, schema, name, hNames, (h _ hKey).mp hMem⟩

theorem aggregatesSketch_iff (h : SameKeys columns columns') :
    AggregatesSketch lines columns line tableAlias column outputName hasNext ↔
      AggregatesSketch lines columns' line tableAlias column outputName hasNext :=
  ⟨h.aggregatesSketch, h.symm.aggregatesSketch⟩

theorem edited_eq (h : SameKeys columns columns') (lines : List Text) :
    Query.edited columns lines = Query.edited columns' lines := by
  have hFragments : (Query.edited columns lines).fragments =
      (Query.edited columns' lines).fragments := by
    apply List.map_congr_left
    intro fragment hFragment
    obtain ⟨reading, hReading, rfl⟩ := List.mem_map.mp hFragment
    obtain ⟨line, hLine⟩ := List.mem_iff_getElem?.mp hReading
    have hSame : (Query.ofLines lines).cardinality? columns reading.fragment =
        (Query.ofLines lines).cardinality? columns' reading.fragment := by
      apply Option.ext
      intro new
      simp only [cardinality?_eq_some_iff hLine, h.aggregatesSketch_iff]
    rw [hSame]
  exact congrArg (fun fragments => { Query.ofLines lines with fragments }) hFragments

theorem patches_iff (h : SameKeys columns columns') (lines : List Text) :
    Patches columns lines ↔ Patches columns' lines := by
  simp only [QueryPatch.patches_iff, h.aggregatesSketch_iff]

end ColumnSet.SameKeys

theorem Rule.applyAll_standard_of_patches_iff {columns columns' : ColumnSet}
    {lines lines' : List Text} (h : Patches columns lines ↔ Patches columns' lines') :
    ∃ flag,
      applyAll columns standard (Query.ofLines lines) = (Query.edited columns lines, .ok flag) ∧
      applyAll columns' standard (Query.ofLines lines') =
        (Query.edited columns' lines', .ok flag) := by
  obtain ⟨flag, hApply, hFlag⟩ := applyAll_standard columns lines
  obtain ⟨flag', hApply', hFlag'⟩ := applyAll_standard columns' lines'
  have hSame : flag = flag' := Bool.eq_iff_iff.mpr (hFlag.trans (h.trans hFlag'.symm))
  exact ⟨flag, hApply, hSame ▸ hApply'⟩

namespace Query

/-- The keys of two columns are the same if and only if the names of schema, table and column are,
but for the case of ASCII letters. So in queries that differ only in this case, the standard rules
replace the same lines for all columns; and of a set of columns only those count that have the form
of a key. -/
theorem columnKey_unambiguous :
    (∀ (table table' holder holder' : Fragment) (column column' : Text),
      table.IsRead → table'.IsRead → holder.IsRead → holder'.IsRead →
      table.role = .table → table'.role = .table →
      holder.NamesColumn column → holder'.NamesColumn column' →
        (columnKey table.attributes (some column) = columnKey table'.attributes (some column') ↔
          table.SameTable table' ∧ column.map Char.toLower = column'.map Char.toLower)) ∧
      (∀ separator sql sql' lines lines', split separator sql = some lines →
        split separator sql' = some lines' → SpelledAlike lines lines' →
        ∃ query query', ofText? separator sql = .ok query ∧ ofText? separator sql' = .ok query' ∧
          ∀ columns, ∃ edited edited' flag,
            Rule.applyAll columns Rule.standard query = (edited, .ok flag) ∧
              Rule.applyAll columns Rule.standard query' = (edited', .ok flag) ∧
              edited.replacements.map (·.1) = edited'.replacements.map (·.1)) ∧
      ∀ separator sql query columns columns', ofText? separator sql = .ok query →
        ColumnSet.SameKeys columns columns' →
        Rule.applyAll columns Rule.standard query = Rule.applyAll columns' Rule.standard query := by
  refine ⟨?_, ?_, ?_⟩
  · intro table table' holder holder' column column' h h' hHolder hHolder' hRole hRole' hColumn
      hColumn'
    exact columnKey_eq_iff h h' hRole hRole' (hHolder.isWord_column hColumn)
      (hHolder'.isWord_column hColumn')
  · intro separator sql sql' lines lines' hSplit hSplit' hAlike
    refine ⟨_, _, ofText?_eq_ok hSplit, ofText?_eq_ok hSplit', fun columns => ?_⟩
    have hPatches : Patches columns lines ↔ Patches columns lines' := hAlike.patches_iff
    obtain ⟨flag, hApply, hApply'⟩ := Rule.applyAll_standard_of_patches_iff hPatches
    exact ⟨_, _, flag, hApply, hApply', hAlike.map_fst_replacements_eq columns⟩
  · intro separator sql query columns columns' hQuery hKeys
    obtain ⟨lines, -, rfl⟩ := ofText?_eq_ok_iff.mp hQuery
    obtain ⟨flag, hApply, hApply'⟩ :=
      Rule.applyAll_standard_of_patches_iff (hKeys.patches_iff lines)
    rw [hApply, hApply', hKeys.edited_eq]

def respelledSum : List Text :=
  ["select", "sum(\"t\".\"V\") as \"m\"", "from", "\"S\".\"b\" as \"t\""]

theorem spelledAlike_respelledSum : SpelledAlike Patcher.sumOfSketch respelledSum where
  respelled := .cons rfl (.cons (by decide) (.cons rfl (.cons (by decide) .nil)))
  declares_iff := declaresAlias_iff_of_readLines (by decide)

/-- An entry with a capital is as good as none, also if it is spelled as in the query. -/
theorem sameKeys_capital : ColumnSet.SameKeys ["S.b.v"] [] := by
  intro key hKey
  rw [List.mem_singleton]
  constructor
  · rintro rfl
    exact absurd (hKey.2 'S' (by decide)) (by decide)
  · exact fun h => absurd h List.not_mem_nil

theorem columnKey_unambiguous_respelledSum :
    (∃ table table' holder holder' : Fragment, table.IsRead ∧ table'.IsRead ∧ holder.IsRead ∧
        holder'.IsRead ∧ table.role = .table ∧ table'.role = .table ∧ holder.NamesColumn "v" ∧
        holder'.NamesColumn "V" ∧
        columnKey table.attributes (some "v") = columnKey table'.attributes (some "V") ∧
        table.SameTable table') ∧
      (split "\n" (join "\n" Patcher.sumOfSketch) = some Patcher.sumOfSketch ∧
        split "\n" (join "\n" respelledSum) = some respelledSum ∧
        SpelledAlike Patcher.sumOfSketch respelledSum ∧
        ∃ edited edited' flag,
          Rule.applyAll ["s.b.v"] Rule.standard (ofLines Patcher.sumOfSketch) = (edited, .ok flag) ∧
            Rule.applyAll ["s.b.v"] Rule.standard (ofLines respelledSum) = (edited', .ok flag) ∧
            edited.replacements.map (·.1) = edited'.replacements.map (·.1)) ∧
      ofText? "\n" (join "\n" respelledSum) = .ok (ofLines respelledSum) ∧
      ColumnSet.SameKeys ["S.b.v"] [] ∧
      Rule.applyAll ["S.b.v"] Rule.standard (ofLines respelledSum) =
        Rule.applyAll [] Rule.standard (ofLines respelledSum) := by
  have hSplit : split "\n" (join "\n" Patcher.sumOfSketch) = some Patcher.sumOfSketch :=
    (split_eq_some_iff (by decide)).mpr ⟨Cut.of_not_mem (by decide) (by decide), rfl⟩
  have hSplit' : split "\n" (join "\n" respelledSum) = some respelledSum :=
    (split_eq_some_iff (by decide)).mpr ⟨Cut.of_not_mem (by decide) (by decide), rfl⟩
  have hQuery := ofText?_eq_ok hSplit
  have hQuery' := ofText?_eq_ok hSplit'
  obtain ⟨hKeys, hSpelled, hSets⟩ := columnKey_unambiguous
  refine ⟨?_, ⟨hSplit, hSplit', spelledAlike_respelledSum, ?_⟩, hQuery', sameKeys_capital,
    hSets _ _ _ _ _ hQuery' sameKeys_capital⟩
  · have hRead (line : Fin 4) : ((ofLines Patcher.sumOfSketch).fragments[line]).IsRead :=
      ⟨_, _, _, hQuery, List.getElem_mem line.isLt⟩
    have hRead' (line : Fin 4) : ((ofLines respelledSum).fragments[line]).IsRead :=
      ⟨_, _, _, hQuery', List.getElem_mem line.isLt⟩
    have hSame := (hKeys _ _ _ _ "v" "V" (hRead 3) (hRead' 3) (hRead 1) (hRead' 1) (by decide)
      (by decide) (.inl (by decide)) (.inl (by decide))).mp (by decide)
    exact ⟨_, _, _, _, hRead 3, hRead' 3, hRead 1, hRead' 1, by decide, by decide,
      .inl (by decide), .inl (by decide), by decide, hSame.1⟩
  · obtain ⟨query, query', hText, hText', hEdited⟩ :=
      hSpelled _ _ _ _ _ hSplit hSplit' spelledAlike_respelledSum
    rw [hQuery] at hText
    rw [hQuery'] at hText'
    cases hText
    cases hText'
    exact hEdited ["s.b.v"]

end Query

end QueryPatch
