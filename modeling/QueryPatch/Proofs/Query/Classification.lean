import QueryPatch.Proofs.Line.Classification
import QueryPatch.Proofs.Query.Roundtrip

/-! # Queries classified

Every line of a query has the role and the attributes that the grammar prescribes for it, by the
keyword line that stands nearest before it. What the grammar does not know is plain text.
-/
set_option autoImplicit false

namespace QueryPatch

open Text

/-- The role and the attributes of a line, as the grammar has them. -/
inductive Prescribed (lines : List Text) (line : Nat) (text : Text) : Role → Attributes → Prop
  | keyword (keyword : Keyword) :
      text = keyword.text → Prescribed lines line text (.keyword keyword) {}
  | aggregation {opening tableAlias column outputName : Text} {hasNext : Bool} :
      NearestKeyword lines line .select →
      AggregationLine (strip text) opening tableAlias column outputName hasNext →
      Prescribed lines line text .aggregation
        { function := some (strip opening), tableAlias := some tableAlias, column := some column
          outputName := some outputName, hasNext }
  | table {schema name tableAlias : Text} :
      NearestKeyword lines line .source → TableLine (strip text) schema name tableAlias →
      Prescribed lines line text .table
        { schema := some schema, table := some name, tableAlias := some tableAlias }
  | join {tableAlias column joinedAlias joinedColumn : Text} :
      NearestKeyword lines line .filter ∨ NearestKeyword lines line .conjunct →
      JoinLine (strip text) tableAlias column joinedAlias joinedColumn →
      Prescribed lines line text .join
        { tableAlias := some tableAlias, column := some column, joinedAlias := some joinedAlias
          joinedColumn := some joinedColumn }
  | condition {tableAlias column : Text} :
      NearestKeyword lines line .filter ∨ NearestKeyword lines line .conjunct →
      ConditionLine (strip text) tableAlias column →
      Prescribed lines line text .condition
        { tableAlias := some tableAlias, column := some column }

theorem Clause.after_take_eq_filter_iff {lines : List Text} {line : Nat} :
    Clause.outside.after (lines.take line) = .filter ↔
      NearestKeyword lines line .filter ∨ NearestKeyword lines line .conjunct := by
  rw [after_take_eq_iff (by decide)]
  constructor
  · rintro ⟨keyword, hOpens, hNearest⟩
    cases keyword with
    | filter => exact .inl hNearest
    | conjunct => exact .inr hNearest
    | select | source | groupBy | orderBy => cases hOpens
  · rintro (hNearest | hNearest)
    · exact ⟨.filter, rfl, hNearest⟩
    · exact ⟨.conjunct, rfl, hNearest⟩

section prescribed

variable {lines : List Text} {line : Nat} {text : Text} {role : Role} {attributes : Attributes}

theorem prescribed_iff :
    Prescribed lines line text role attributes ↔
      (∃ keyword : Keyword, text = keyword.text ∧ role = .keyword keyword ∧ attributes = {}) ∨
        ∃ shape, (Clause.outside.after (lines.take line)).Finds (strip text) shape ∧
          role = shape.role ∧ attributes = shape.attributes := by
  constructor
  · rintro (⟨keyword, hText⟩ | ⟨hNearest, hLine⟩ | ⟨hNearest, hLine⟩ | ⟨hNearest, hLine⟩ |
      ⟨hNearest, hLine⟩)
    · exact .inl ⟨keyword, hText, rfl, rfl⟩
    · have hClause := Clause.after_take_eq_select_iff.mpr hNearest
      exact .inr ⟨_, .aggregation hClause hLine, rfl, rfl⟩
    · have hClause := Clause.after_take_eq_source_iff.mpr hNearest
      exact .inr ⟨_, .table hClause hLine, rfl, rfl⟩
    · have hClause := Clause.after_take_eq_filter_iff.mpr hNearest
      exact .inr ⟨_, .join hClause hLine, rfl, rfl⟩
    · have hClause := Clause.after_take_eq_filter_iff.mpr hNearest
      exact .inr ⟨_, .condition hClause hLine, rfl, rfl⟩
  · rintro (⟨keyword, hText, rfl, rfl⟩ | ⟨shape, hFinds, rfl, rfl⟩)
    · exact .keyword keyword hText
    · cases hFinds with
      | aggregation hClause hLine =>
        exact .aggregation (Clause.after_take_eq_select_iff.mp hClause) hLine
      | table hClause hLine => exact .table (Clause.after_take_eq_source_iff.mp hClause) hLine
      | join hClause hLine => exact .join (Clause.after_take_eq_filter_iff.mp hClause) hLine
      | condition hClause hLine =>
        exact .condition (Clause.after_take_eq_filter_iff.mp hClause) hLine

theorem Prescribed.role_ne_text (h : Prescribed lines line text role attributes) :
    role ≠ .text := by
  cases h <;> nofun

theorem Prescribed.unique {role' : Role} {attributes' : Attributes}
    (h : Prescribed lines line text role attributes)
    (h' : Prescribed lines line text role' attributes') :
    role = role' ∧ attributes = attributes' := by
  rcases prescribed_iff.mp h with ⟨keyword, rfl, rfl, rfl⟩ | ⟨shape, hFinds, rfl, rfl⟩ <;>
    rcases prescribed_iff.mp h' with ⟨keyword', hText, rfl, rfl⟩ | ⟨shape', hFinds', rfl, rfl⟩
  · rw [Keyword.text_injective hText]
    exact ⟨rfl, rfl⟩
  · exact absurd rfl (hFinds'.not_keyword keyword)
  · exact absurd hText (hFinds.not_keyword keyword')
  · rw [hFinds.unique hFinds']
    exact ⟨rfl, rfl⟩

/-- A line is read as the grammar prescribes, or as plain text if it prescribes nothing. -/
theorem prescribed_or_text {reading : Reading}
    (h : Classified (Clause.outside.after (lines.take line)) text reading) :
    reading.fragment.text = text ∧
      (Prescribed lines line text reading.fragment.role reading.fragment.attributes ∨
        reading.fragment.role = .text ∧ reading.fragment.attributes = {} ∧
          ∀ role attributes, ¬ Prescribed lines line text role attributes) := by
  cases h with
  | keyword keyword hText => exact ⟨rfl, .inl (.keyword keyword hText)⟩
  | shape hFinds => exact ⟨rfl, .inl (prescribed_iff.mpr (.inr ⟨_, hFinds, rfl, rfl⟩))⟩
  | plain hPlain hNone =>
    refine ⟨rfl, .inr ⟨rfl, rfl, fun role attributes h => ?_⟩⟩
    rcases prescribed_iff.mp h with ⟨keyword, hText, -⟩ | ⟨shape, hFinds, -⟩
    · exact hPlain keyword hText
    · exact hNone shape hFinds

theorem Prescribed.exists_nearestKeyword (h : Prescribed lines line text role attributes)
    (hPlain : ∀ keyword : Keyword, text ≠ keyword.text) :
    ∃ keyword, NearestKeyword lines line keyword ∧ keyword ≠ .groupBy ∧ keyword ≠ .orderBy := by
  cases h with
  | keyword keyword hText => exact absurd hText (hPlain keyword)
  | aggregation hNearest => exact ⟨.select, hNearest, nofun, nofun⟩
  | table hNearest => exact ⟨.source, hNearest, nofun, nofun⟩
  | join hNearest | condition hNearest =>
    rcases hNearest with hNearest | hNearest
    · exact ⟨.filter, hNearest, nofun, nofun⟩
    · exact ⟨.conjunct, hNearest, nofun, nofun⟩

end prescribed

namespace Query

theorem classified_of_getElem? {lines : List Text} {line : Nat} {fragment : Fragment}
    (h : (ofLines lines).fragments[line]? = some fragment) :
    ∃ reading text, (readLines Recogniser.standard .outside lines)[line]? = some reading ∧
      reading.fragment = fragment ∧ lines[line]? = some text ∧
      Classified (Clause.outside.after (lines.take line)) text reading := by
  rw [ofLines, ofReadings, List.getElem?_map, Option.map_eq_some_iff] at h
  obtain ⟨reading, hReading, rfl⟩ := h
  obtain ⟨text, hText, rfl⟩ := getElem?_standard_eq_some_iff.mp hReading
  exact ⟨_, text, hReading, rfl, hText, classified_readLine _ text⟩

/-- In every query that is read, a line has the role and the attributes that the grammar prescribes
and no others. It is plain text without attributes if and only if the grammar prescribes nothing,
as it does for every line after `group by`, after `order by` and before the first keyword. -/
theorem ofText?_prescribed (separator text : Text) (hSeparator : separator ≠ []) :
    ∃ lines query, split separator text = some lines ∧ ofText? separator text = .ok query ∧
      query.fragments.map Fragment.text = lines ∧
      ∀ line fragment, query.fragments[line]? = some fragment →
        (∀ role attributes, Prescribed lines line fragment.text role attributes ↔
          role ≠ .text ∧ fragment.role = role ∧ fragment.attributes = attributes) ∧
        (fragment.role = .text ↔
          ∀ role attributes, ¬ Prescribed lines line fragment.text role attributes) ∧
        (fragment.role = .text → fragment.attributes = {}) ∧
        ((∀ keyword : Keyword, fragment.text ≠ keyword.text) →
          (∀ keyword, NearestKeyword lines line keyword →
            keyword = .groupBy ∨ keyword = .orderBy) → fragment.role = .text) := by
  obtain ⟨lines, hSplit⟩ := exists_split hSeparator text
  refine ⟨lines, ofLines lines, hSplit, ofText?_eq_ok hSplit, map_text_ofLines lines, ?_⟩
  intro line fragment hFragment
  obtain ⟨reading, content, -, rfl, -, hClassified⟩ := classified_of_getElem? hFragment
  obtain ⟨hText, hCases⟩ := prescribed_or_text hClassified
  rw [hText]
  rcases hCases with hPrescribed | ⟨hRole, hAttributes, hNone⟩
  · have hNotText := hPrescribed.role_ne_text
    refine ⟨fun role attributes => ⟨fun h => ?_, ?_⟩, ⟨fun h => absurd h hNotText, fun h => ?_⟩,
      fun h => absurd h hNotText, fun hPlain hNearest => ?_⟩
    · obtain ⟨rfl, rfl⟩ := hPrescribed.unique h
      exact ⟨hNotText, rfl, rfl⟩
    · rintro ⟨-, rfl, rfl⟩
      exact hPrescribed
    · exact absurd hPrescribed (h _ _)
    · obtain ⟨keyword, hKeyword, hGroup, hOrder⟩ := hPrescribed.exists_nearestKeyword hPlain
      rcases hNearest keyword hKeyword with hSame | hSame
      · exact absurd hSame hGroup
      · exact absurd hSame hOrder
  · refine ⟨fun role attributes => ⟨fun h => absurd h (hNone role attributes), ?_⟩,
      ⟨fun _ => hNone, fun _ => hRole⟩, fun _ => hAttributes, fun _ _ => hRole⟩
    rintro ⟨hNotText, hSame, -⟩
    exact absurd (hSame.symm.trans hRole) hNotText

def bracketedCondition : List Text := ["where", " (\"t\"\"\"x\" in ('a', b))"]

/-- A quote sets off the column here, and only the outer brackets are taken away. -/
theorem ofText?_prescribed_bracketedCondition :
    "\n".toList ≠ [] ∧ ∃ query fragment,
      ofText? "\n" (join "\n" bracketedCondition) = .ok query ∧
      query.fragments[1]? = some fragment ∧ fragment.role = .condition ∧
      fragment.attributes = { tableAlias := some "t", column := some "x" } := by
  obtain ⟨lines, query, hSplit, hQuery, hTexts, hLines⟩ :=
    ofText?_prescribed "\n" (join "\n" bracketedCondition) (by decide)
  have hSplit' : split "\n" (join "\n" bracketedCondition) = some bracketedCondition :=
    (split_eq_some_iff (by decide)).mpr ⟨Cut.of_not_mem (by decide) (by decide), rfl⟩
  obtain rfl : lines = bracketedCondition := Option.some.inj (hSplit.symm.trans hSplit')
  have hText : query.fragments[1]?.map Fragment.text = some " (\"t\"\"\"x\" in ('a', b))" := by
    rw [← List.getElem?_map, hTexts]
    rfl
  obtain ⟨fragment, hFragment, hContent⟩ := Option.map_eq_some_iff.mp hText
  have hPrescribed : Prescribed bracketedCondition 1 fragment.text .condition
      { tableAlias := some "t", column := some "x" } := by
    have hStrip : strip " (\"t\"\"\"x\" in ('a', b))" =
        '(' :: "\"t\"\"\"x\" in ('a', b)".toList ++ [')'] := by decide
    rw [hContent]
    refine .condition (.inl ⟨0, Nat.zero_lt_one, rfl, fun between h₁ h₂ => by omega⟩)
      ⟨by decide, by decide, '"', " in ('a', b)", by decide, ?_, ?_⟩
    · refine .membership (by decide : "'a', b".toList ≠ []) fun c hc => ?_
      exact (Shape.isListChar_iff c).mp (List.all_eq_true.mp rfl c hc)
    · rw [hStrip]
      exact .brackets _
  obtain ⟨-, hRole, hAttributes⟩ := ((hLines 1 fragment hFragment).1 _ _).mp hPrescribed
  exact ⟨by decide, query, fragment, hQuery, hFragment, hRole, hAttributes⟩

end Query

end QueryPatch
