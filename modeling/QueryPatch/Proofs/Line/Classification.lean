import QueryPatch.Proofs.Line.Predicate
import QueryPatch.Proofs.Line.Standard

/-! # Lines classified

In each clause the standard recognisers find at most one shape in a line. A line that is no keyword
is read as that shape, or kept as plain text if there is none.
-/
set_option autoImplicit false

namespace QueryPatch

open Text

/-- The shapes that the grammar knows in a clause. -/
inductive Clause.Finds (clause : Clause) (text : Text) : Shape → Prop
  | aggregation {opening tableAlias column outputName : Text} {hasNext : Bool} :
      clause = .select → AggregationLine text opening tableAlias column outputName hasNext →
      Finds clause text (.aggregation (strip opening) tableAlias column outputName hasNext)
  | table {schema name tableAlias : Text} :
      clause = .source → TableLine text schema name tableAlias →
      Finds clause text (.table schema name tableAlias)
  | join {tableAlias column joinedAlias joinedColumn : Text} :
      clause = .filter → JoinLine text tableAlias column joinedAlias joinedColumn →
      Finds clause text (.join tableAlias column joinedAlias joinedColumn)
  | condition {tableAlias column : Text} :
      clause = .filter → ConditionLine text tableAlias column →
      Finds clause text (.condition tableAlias column)

namespace Clause

variable {text : Text} {shape shape' : Shape}

theorem finds_select_iff : Finds .select text shape ↔ Shape.aggregation? text = some shape := by
  rw [Shape.aggregation?_eq_some_iff]
  constructor
  · rintro (⟨-, hLine⟩ | ⟨hClause⟩ | ⟨hClause⟩ | ⟨hClause⟩)
    · exact ⟨_, _, _, _, _, hLine, rfl⟩
    all_goals cases hClause
  · rintro ⟨_, _, _, _, _, hLine, rfl⟩
    exact .aggregation rfl hLine

theorem finds_source_iff : Finds .source text shape ↔ Shape.table? text = some shape := by
  rw [Shape.table?_eq_some_iff]
  constructor
  · rintro (⟨hClause⟩ | ⟨-, hLine⟩ | ⟨hClause⟩ | ⟨hClause⟩)
    · cases hClause
    · exact ⟨_, _, _, hLine, rfl⟩
    all_goals cases hClause
  · rintro ⟨_, _, _, hLine, rfl⟩
    exact .table rfl hLine

theorem finds_filter_iff :
    Finds .filter text shape ↔
      Shape.join? text = some shape ∨ Shape.condition? text = some shape := by
  rw [Shape.join?_eq_some_iff, Shape.condition?_eq_some_iff]
  constructor
  · rintro (⟨hClause⟩ | ⟨hClause⟩ | ⟨-, hLine⟩ | ⟨-, hLine⟩)
    · cases hClause
    · cases hClause
    · exact .inl ⟨_, _, _, _, hLine, rfl⟩
    · exact .inr ⟨_, _, hLine, rfl⟩
  · rintro (⟨_, _, _, _, hLine, rfl⟩ | ⟨_, _, hLine, rfl⟩)
    · exact .join rfl hLine
    · exact .condition rfl hLine

theorem Finds.clause_eq {clause : Clause} (h : clause.Finds text shape) :
    clause = .select ∨ clause = .source ∨ clause = .filter := by
  rcases h with ⟨hClause⟩ | ⟨hClause⟩ | ⟨hClause⟩ | ⟨hClause⟩ <;> simp [hClause]

theorem condition?_eq_none_of_join? (hJoin : Shape.join? text = some shape) :
    Shape.condition? text = none := by
  obtain ⟨_, _, _, _, hLine, -⟩ := Shape.join?_eq_some_iff.mp hJoin
  rw [Option.eq_none_iff_forall_ne_some]
  intro other hOther
  obtain ⟨_, _, hCondition, -⟩ := Shape.condition?_eq_some_iff.mp hOther
  exact hLine.not_conditionLine hCondition

theorem Finds.unique {clause : Clause} (h : clause.Finds text shape)
    (h' : clause.Finds text shape') : shape = shape' := by
  rcases h.clause_eq with rfl | rfl | rfl
  · exact Option.some.inj ((finds_select_iff.mp h).symm.trans (finds_select_iff.mp h'))
  · exact Option.some.inj ((finds_source_iff.mp h).symm.trans (finds_source_iff.mp h'))
  · rcases finds_filter_iff.mp h with h | h <;> rcases finds_filter_iff.mp h' with h' | h'
    · exact Option.some.inj (h.symm.trans h')
    · rw [condition?_eq_none_of_join? h] at h'
      cases h'
    · rw [condition?_eq_none_of_join? h'] at h
      cases h
    · exact Option.some.inj (h.symm.trans h')

/-- A name in quotes stands in every shape. -/
theorem Finds.not_keyword {clause : Clause} {line : Text} (h : clause.Finds (strip line) shape)
    (keyword : Keyword) : line ≠ keyword.text := by
  rintro rfl
  rcases h.clause_eq with rfl | rfl | rfl
  · rw [finds_select_iff, keyword.aggregation?_strip_text] at h
    cases h
  · rw [finds_source_iff, keyword.table?_strip_text] at h
    cases h
  · rcases finds_filter_iff.mp h with h | h <;> cases keyword <;> cases h

end Clause

namespace Reading

variable {clause : Clause} {text : Text} {reading : Reading} {recogniser : Recogniser}

theorem recognise_some {shape : Shape} (hClause : recogniser.clauses.contains clause = true)
    (h : recogniser.shape? text = some shape) :
    reading.recognise clause text recogniser = reading.accept recogniser.name text shape := by
  rw [recognise, if_pos hClause, h]

theorem recognise_none (h : recogniser.shape? text = none) :
    reading.recognise clause text recogniser = reading := by
  rw [recognise, h]
  exact ite_self reading

end Reading

/-- Everything that reading a line can come to. -/
inductive Classified (clause : Clause) (line : Text) : Reading → Prop
  | keyword (keyword : Keyword) :
      line = keyword.text → Classified clause line (.ofKeyword keyword line)
  | shape {name : Text} {shape : Shape} :
      clause.Finds (strip line) shape →
      Classified clause line ((Reading.ofLine line).accept name (strip line) shape)
  | plain :
      (∀ keyword : Keyword, line ≠ keyword.text) → (∀ shape, ¬ clause.Finds (strip line) shape) →
      Classified clause line (.ofLine line)

theorem classified_ofPlainLine (clause : Clause) {line : Text}
    (hPlain : ∀ keyword : Keyword, line ≠ keyword.text) :
    Classified clause line (.ofPlainLine Recogniser.standard clause line) := by
  cases clause with
  | select =>
    rw [Reading.ofPlainLine_select]
    cases hShape : Shape.aggregation? (strip line) with
    | some shape => exact .shape (Clause.finds_select_iff.mpr hShape)
    | none =>
      refine .plain hPlain fun shape hFinds => ?_
      rw [Clause.finds_select_iff, hShape] at hFinds
      cases hFinds
  | source =>
    rw [Reading.ofPlainLine_source]
    cases hShape : Shape.table? (strip line) with
    | some shape => exact .shape (Clause.finds_source_iff.mpr hShape)
    | none =>
      refine .plain hPlain fun shape hFinds => ?_
      rw [Clause.finds_source_iff, hShape] at hFinds
      cases hFinds
  | filter =>
    rw [Reading.ofPlainLine_filter]
    cases hJoin : Recogniser.join.shape? (strip line) with
    | some shape =>
      -- the condition is looked for even in a line that is a join already
      have hCondition : Recogniser.condition.shape? (strip line) = none :=
        Clause.condition?_eq_none_of_join? hJoin
      rw [Reading.recognise_some rfl hJoin, Reading.recognise_none hCondition]
      exact .shape (Clause.finds_filter_iff.mpr (.inl hJoin))
    | none =>
      rw [Reading.recognise_none hJoin]
      cases hCondition : Recogniser.condition.shape? (strip line) with
      | some shape =>
        rw [Reading.recognise_some rfl hCondition]
        exact .shape (Clause.finds_filter_iff.mpr (.inr hCondition))
      | none =>
        rw [Reading.recognise_none hCondition]
        refine .plain hPlain fun shape hFinds => ?_
        rcases Clause.finds_filter_iff.mp hFinds with hFound | hFound
        · cases hJoin.symm.trans hFound
        · cases hCondition.symm.trans hFound
  | outside | groupBy | orderBy =>
    refine .plain hPlain fun shape hFinds => ?_
    rcases hFinds.clause_eq with hClause | hClause | hClause <;> cases hClause

theorem classified_readLine (clause : Clause) (line : Text) :
    Classified clause line (readLine Recogniser.standard clause line) := by
  rw [readLine]
  cases hKeyword : Keyword.ofText? line with
  | some keyword => exact .keyword keyword (Keyword.ofText?_eq_some_iff.mp hKeyword)
  | none => exact classified_ofPlainLine clause (Keyword.ofText?_eq_none_iff.mp hKeyword)

end QueryPatch
