import QueryPatch.Proofs.Query.Classification
import QueryPatch.Proofs.Text.Strip

/-! # What a query registers

A name is registered if and only if some line declares it, and then for the last line that does. The
line still has the role and the name for which it was registered, and no line carries an attribute
that is not of its role.
-/
set_option autoImplicit false

namespace QueryPatch

open Text

/-- The attributes of a line with the role. -/
def Role.fields : Role → List Field
  | .text | .keyword _ => []
  | .table => [.schema, .table, .tableAlias]
  | .aggregation => [.function, .tableAlias, .column, .outputName]
  | .join => [.tableAlias, .column, .joinedAlias, .joinedColumn]
  | .condition => [.tableAlias, .column]

namespace Fragment

/-- The fragment of a line that was read and not replaced. -/
structure WellFormed (fragment : Fragment) : Prop where
  known_iff : ∀ field,
    (∃ value, fragment.attributes.get field = some value) ↔ field ∈ fragment.role.fields
  value_ne_nil : ∀ field value, fragment.attributes.get field = some value → value ≠ []
  aggregation_of_hasNext : fragment.attributes.hasNext = true → fragment.role = .aggregation
  replacement_eq_none : fragment.replacement = none

/-- A table or an aggregation with the alias. -/
def HasAlias (fragment : Fragment) (name : Text) : Prop :=
  (fragment.role = .table ∨ fragment.role = .aggregation) ∧
    fragment.attributes.tableAlias = some name

/-- A join to the alias. -/
def HasJoinedAlias (fragment : Fragment) (name : Text) : Prop :=
  fragment.role = .join ∧ fragment.attributes.joinedAlias = some name

end Fragment

/-- The last fragment of which something holds. -/
structure LastFragment (holds : Fragment → Prop) (fragments : List Fragment) (line : Nat)
    (fragment : Fragment) : Prop where
  here : fragments[line]? = some fragment
  holds_here : holds fragment
  none_later : ∀ later other, line < later → fragments[later]? = some other → ¬ holds other

/-- The registry has the names that some fragment has, each for the last such fragment. -/
structure Registers (registry : Registry) (fragments : List Fragment)
    (hasName : Fragment → Text → Prop) : Prop where
  name_iff : ∀ name, (∃ line, Keyed.get? registry name = some line) ↔
    ∃ fragment ∈ fragments, hasName fragment name
  line_iff : ∀ name line, Keyed.get? registry name = some line ↔
    ∃ fragment, LastFragment (hasName · name) fragments line fragment

section registers

variable {names : Reading → List Text} {hasName : Fragment → Text → Prop} {readings : List Reading}

theorem exists_lastFragment {holds : Fragment → Prop} {fragments : List Fragment}
    {fragment : Fragment} (hMem : fragment ∈ fragments) (h : holds fragment) :
    ∃ line last, LastFragment holds fragments line last := by
  induction fragments using List.reverseRecOn with
  | nil => cases hMem
  | append_singleton fragments last ih =>
    by_cases hLast : holds last
    · refine ⟨fragments.length, last, List.getElem?_concat_length, hLast, ?_⟩
      intro later other hLess hOther
      rcases getElem?_concat_eq_some_iff.mp hOther with hOther | ⟨rfl, -⟩
      · exact absurd (List.getElem?_eq_some_iff.mp hOther).1 (Nat.not_lt_of_gt hLess)
      · exact absurd hLess (Nat.lt_irrefl _)
    · have hBefore : fragment ∈ fragments := by
        rcases List.mem_append.mp hMem with hMem | hMem
        · exact hMem
        · obtain rfl := List.mem_singleton.mp hMem
          exact absurd h hLast
      obtain ⟨line, found, hHere, hHolds, hLater⟩ := ih hBefore
      refine ⟨line, found, getElem?_concat_eq_some_iff.mpr (.inl hHere), hHolds, ?_⟩
      intro later other hLess hOther
      rcases getElem?_concat_eq_some_iff.mp hOther with hOther | ⟨-, rfl⟩
      · exact hLater later other hLess hOther
      · exact hLast

theorem lastDeclaration_iff_lastFragment
    (hNames : ∀ reading ∈ readings, ∀ name, name ∈ names reading ↔ hasName reading.fragment name)
    {name : Text} {line : Nat} :
    (∃ reading, LastDeclaration names readings name line reading) ↔
      ∃ fragment,
        LastFragment (hasName · name) (readings.map (·.fragment)) line fragment := by
  have hGet {line : Nat} {reading : Reading} (h : readings[line]? = some reading) :
      name ∈ names reading ↔ hasName reading.fragment name :=
    hNames reading (List.mem_of_getElem? h) name
  constructor
  · rintro ⟨reading, hHere, hDeclares, hLater⟩
    refine ⟨reading.fragment, ?_, (hGet hHere).mp hDeclares, ?_⟩
    · rw [List.getElem?_map, hHere]
      rfl
    · intro later other hLess hOther
      rw [List.getElem?_map, Option.map_eq_some_iff] at hOther
      obtain ⟨found, hFound, rfl⟩ := hOther
      exact fun h => hLater later found hLess hFound ((hGet hFound).mpr h)
  · rintro ⟨fragment, hHere, hHolds, hLater⟩
    rw [List.getElem?_map, Option.map_eq_some_iff] at hHere
    obtain ⟨reading, hReading, rfl⟩ := hHere
    refine ⟨reading, hReading, (hGet hReading).mpr hHolds, fun later other hLess hOther h => ?_⟩
    apply hLater later other.fragment hLess _ ((hGet hOther).mp h)
    rw [List.getElem?_map, hOther]
    rfl

theorem registers_ofDeclarations
    (hNames : ∀ reading ∈ readings, ∀ name, name ∈ names reading ↔ hasName reading.fragment name) :
    Registers (.ofDeclarations (Query.declarations names readings))
      (readings.map (·.fragment)) hasName := by
  have hLine (name : Text) (line : Nat) :
      Keyed.get? (Registry.ofDeclarations (Query.declarations names readings)) name = some line ↔
        ∃ fragment, LastFragment (hasName · name) (readings.map (·.fragment)) line fragment := by
    rw [Query.get?_declarations_eq_some_iff, lastDeclaration_iff_lastFragment hNames]
  refine ⟨fun name => ?_, hLine⟩
  simp only [hLine]
  constructor
  · rintro ⟨line, fragment, hLast⟩
    exact ⟨fragment, List.mem_of_getElem? hLast.here, hLast.holds_here⟩
  · rintro ⟨fragment, hMem, hHolds⟩
    exact exists_lastFragment hMem hHolds

end registers

namespace Classified

variable {clause : Clause} {line : Text} {reading : Reading}

theorem mem_aliases_iff (h : Classified clause line reading) (name : Text) :
    name ∈ reading.aliases ↔ reading.fragment.HasAlias name := by
  cases h with
  | keyword | plain => simp [Reading.ofKeyword, Reading.ofLine, Fragment.HasAlias]
  | shape hFinds =>
    cases hFinds <;>
      simp [Reading.accept, Reading.ofLine, Fragment.HasAlias, Shape.role, Shape.attributes,
        Shape.declaredAlias?, eq_comm]

theorem mem_joins_iff (h : Classified clause line reading) (name : Text) :
    name ∈ reading.joins ↔ reading.fragment.HasJoinedAlias name := by
  cases h with
  | keyword | plain => simp [Reading.ofKeyword, Reading.ofLine, Fragment.HasJoinedAlias]
  | shape hFinds =>
    cases hFinds <;>
      simp [Reading.accept, Reading.ofLine, Fragment.HasJoinedAlias, Shape.role, Shape.attributes,
        Shape.joinedAlias?, eq_comm]

end Classified

/-- The opening of a call in a stripped line does not begin with a blank. -/
theorem AggregationLine.strip_opening_ne_nil {text opening tableAlias column outputName : Text}
    {hasNext : Bool}
    (h : AggregationLine (strip text) opening tableAlias column outputName hasNext) :
    strip opening ≠ [] := by
  obtain ⟨c, rest, rfl⟩ := List.exists_cons_of_ne_nil h.opening_ne_nil
  obtain ⟨mark, -, hLine⟩ := h.layout
  have hHead : c ∈ (strip text).head? := by
    rw [hLine]
    rfl
  exact strip_ne_nil rfl (not_isBlank_of_head?_strip hHead)

theorem Clause.Finds.known_iff {clause : Clause} {text : Text} {shape : Shape}
    (h : clause.Finds text shape) (field : Field) :
    (∃ value, shape.attributes.get field = some value) ↔ field ∈ shape.role.fields := by
  cases h <;> cases field <;>
    simp [Shape.attributes, Shape.role, Attributes.get, Role.fields]

theorem Clause.Finds.value_ne_nil {clause : Clause} {line : Text} {shape : Shape}
    (h : clause.Finds (strip line) shape) (field : Field) (value : Text)
    (hValue : shape.attributes.get field = some value) : value ≠ [] := by
  cases h with
  | aggregation _ hLine =>
    cases field <;> cases hValue
    · exact hLine.tableAlias_isWord.1
    · exact hLine.column_isWord.1
    · exact hLine.strip_opening_ne_nil
    · exact hLine.outputName_isWord.1
  | table _ hLine =>
    cases field <;> cases hValue
    · exact hLine.schema_isWord.1
    · exact hLine.name_isWord.1
    · exact hLine.tableAlias_isWord.1
  | join _ hLine =>
    cases field <;> cases hValue
    · exact hLine.tableAlias_isWord.1
    · exact hLine.column_isWord.1
    · exact hLine.joinedAlias_isWord.1
    · exact hLine.joinedColumn_isWord.1
  | condition _ hLine =>
    cases field <;> cases hValue
    · exact hLine.tableAlias_isWord.1
    · exact hLine.column_isWord.1

theorem Classified.wellFormed {clause : Clause} {line : Text} {reading : Reading}
    (h : Classified clause line reading) : reading.fragment.WellFormed := by
  cases h with
  | keyword | plain =>
    refine ⟨fun field => ?_, fun field value hValue => ?_, nofun, rfl⟩
    · cases field <;> simp [Reading.ofKeyword, Reading.ofLine, Attributes.get, Role.fields]
    · cases field <;> cases hValue
  | shape hFinds =>
    refine ⟨hFinds.known_iff, hFinds.value_ne_nil, fun hNext => ?_, rfl⟩
    cases hFinds with
    | aggregation => rfl
    | table | join | condition => cases hNext

namespace Query

/-- In every query that is read, the registry of aliases has the aliases of its tables and
aggregations, and the registry of joins the joined aliases of its joins, each for the last line that
has it. All lines carry the attributes of their role, none of them empty, and none is replaced. -/
theorem ofText?_registered (separator text : Text) (hSeparator : separator ≠ []) :
    ∃ query, ofText? separator text = .ok query ∧
      Registers query.aliases query.fragments Fragment.HasAlias ∧
      Registers query.joins query.fragments Fragment.HasJoinedAlias ∧
      ∀ fragment ∈ query.fragments, fragment.WellFormed := by
  obtain ⟨lines, hSplit⟩ := exists_split hSeparator text
  have hClassified : ∀ reading ∈ readLines Recogniser.standard .outside lines,
      ∃ clause content, Classified clause content reading := by
    intro reading hReading
    obtain ⟨line, hLine⟩ := List.mem_iff_getElem?.mp hReading
    obtain ⟨content, -, rfl⟩ := getElem?_standard_eq_some_iff.mp hLine
    exact ⟨_, content, classified_readLine _ content⟩
  refine ⟨ofLines lines, ofText?_eq_ok hSplit, ?_, ?_, ?_⟩
  · apply registers_ofDeclarations
    intro reading hReading
    obtain ⟨_, _, h⟩ := hClassified reading hReading
    exact h.mem_aliases_iff
  · apply registers_ofDeclarations
    intro reading hReading
    obtain ⟨_, _, h⟩ := hClassified reading hReading
    exact h.mem_joins_iff
  · intro fragment hFragment
    obtain ⟨reading, hReading, rfl⟩ := List.mem_map.mp hFragment
    obtain ⟨_, _, h⟩ := hClassified reading hReading
    exact h.wellFormed

def repeatedAlias : List Text :=
  ["from", "\"s\".\"a\" as \"t\",", "\"s\".\"b\" as \"t\"", "select", "sum(\"u\".\"v\") as \"m\""]

/-- The second table takes the alias over, and the aggregation has one of its own. -/
theorem ofText?_registered_repeatedAlias :
    "\n".toList ≠ [] ∧ ∃ query, ofText? "\n" (join "\n" repeatedAlias) = .ok query ∧
      (∃ fragment, LastFragment (Fragment.HasAlias · "t") query.fragments 2 fragment) ∧
      (∃ fragment ∈ query.fragments, fragment.HasAlias "u") ∧
      ∀ fragment ∈ query.fragments, ¬ fragment.HasAlias "m" := by
  obtain ⟨query, hQuery, hAliases, -, -⟩ :=
    ofText?_registered "\n" (join "\n" repeatedAlias) (by decide)
  have hSplit : split "\n" (join "\n" repeatedAlias) = some repeatedAlias :=
    (split_eq_some_iff (by decide)).mpr ⟨Cut.of_not_mem (by decide) (by decide), rfl⟩
  obtain rfl : ofLines repeatedAlias = query :=
    Except.ok.inj ((ofText?_eq_ok hSplit).symm.trans hQuery)
  refine ⟨by decide, _, hQuery, (hAliases.line_iff "t" 2).mp (by decide),
    (hAliases.name_iff "u").mp ⟨4, by decide⟩, fun fragment hMem hName => ?_⟩
  obtain ⟨line, hLine⟩ := (hAliases.name_iff "m").mpr ⟨fragment, hMem, hName⟩
  have hNone : Keyed.get? (ofLines repeatedAlias).aliases "m" = none := by decide
  rw [hNone] at hLine
  cases hLine

end Query

end QueryPatch
