import QueryPatch.Proofs.Line.Clause
import QueryPatch.Proofs.Line.Grammar

/-! # What the standard recognisers find

Aggregations are found after `select` only and tables after `from` only, and only these two declare
aliases. Whatever is found, the line itself is kept.
-/
set_option autoImplicit false

namespace QueryPatch

open Text

section unique

variable {line opening opening' tableAlias tableAlias' column column' outputName outputName' : Text}
  {schema schema' name name' : Text} {hasNext hasNext' : Bool}

theorem AggregationLine.unique
    (h : AggregationLine line opening tableAlias column outputName hasNext)
    (h' : AggregationLine line opening' tableAlias' column' outputName' hasNext') :
    strip opening = strip opening' ∧ tableAlias = tableAlias' ∧ column = column' ∧
      outputName = outputName' ∧ hasNext = hasNext' := by
  have hShape := Shape.aggregation?_eq_some_iff.mpr ⟨_, _, _, _, _, h, rfl⟩
  rw [Shape.aggregation?_eq_some_iff.mpr ⟨_, _, _, _, _, h', rfl⟩, Option.some.injEq,
    Shape.aggregation.injEq] at hShape
  obtain ⟨hOpening, rfl, rfl, rfl, rfl⟩ := hShape
  exact ⟨hOpening.symm, rfl, rfl, rfl, rfl⟩

theorem TableLine.unique (h : TableLine line schema name tableAlias)
    (h' : TableLine line schema' name' tableAlias') :
    schema = schema' ∧ name = name' ∧ tableAlias = tableAlias' := by
  have hShape := Shape.table?_eq_some_iff.mpr ⟨_, _, _, h, rfl⟩
  rw [Shape.table?_eq_some_iff.mpr ⟨_, _, _, h', rfl⟩] at hShape
  cases hShape
  exact ⟨rfl, rfl, rfl⟩

end unique

/-- A shape that has no part in which aggregations are replaced. -/
structure Shape.Neutral (shape : Shape) : Prop where
  not_aggregation : shape.role ≠ .aggregation
  not_table : shape.role ≠ .table
  declaredAlias?_eq_none : shape.declaredAlias? = none

structure Reading.Neutral (reading : Reading) (line : Text) : Prop where
  text_eq : reading.fragment.text = line
  replacement_eq_none : reading.fragment.replacement = none
  not_aggregation : reading.fragment.role ≠ .aggregation
  not_table : reading.fragment.role ≠ .table
  aliases_eq_nil : reading.aliases = []

theorem Shape.neutral_of_join? {line : Text} {shape : Shape} (h : join? line = some shape) :
    shape.Neutral := by
  obtain ⟨_, _, h⟩ := Option.bind_eq_some_iff.mp h
  obtain ⟨_, _, h⟩ := Option.bind_eq_some_iff.mp h
  obtain ⟨_, _, h⟩ := Option.bind_eq_some_iff.mp h
  dsimp only at h
  split at h
  · cases h
    exact ⟨nofun, nofun, rfl⟩
  · cases h

theorem Shape.neutral_of_condition? {line : Text} {shape : Shape}
    (h : condition? line = some shape) : shape.Neutral := by
  obtain ⟨_, _, h⟩ := Option.bind_eq_some_iff.mp h
  dsimp only at h
  split at h
  · cases h
    exact ⟨nofun, nofun, rfl⟩
  · cases h

theorem Keyword.aggregation?_strip_text (keyword : Keyword) :
    Shape.aggregation? (strip keyword.text) = none := by
  cases keyword <;> rfl

theorem Keyword.table?_strip_text (keyword : Keyword) :
    Shape.table? (strip keyword.text) = none := by
  cases keyword <;> rfl

/-- Everything that reading a line can come to, as far as aliases and aggregations go. -/
inductive Read (clause : Clause) (line : Text) : Reading → Prop
  | aggregation {opening tableAlias column outputName : Text} {hasNext : Bool} :
      clause = .select →
      AggregationLine (strip line) opening tableAlias column outputName hasNext →
      Read clause line ((Reading.ofLine line).accept Recogniser.aggregation.name (strip line)
        (.aggregation (strip opening) tableAlias column outputName hasNext))
  | table {schema name tableAlias : Text} :
      clause = .source →
      TableLine (strip line) schema name tableAlias →
      Read clause line ((Reading.ofLine line).accept Recogniser.table.name (strip line)
        (.table schema name tableAlias))
  | other {reading : Reading} :
      (clause = .select → Shape.aggregation? (strip line) = none) →
      (clause = .source → Shape.table? (strip line) = none) →
      reading.Neutral line → Read clause line reading

namespace Reading

variable {line : Text}

theorem ofPlainLine_select :
    ofPlainLine Recogniser.standard .select line =
      match Shape.aggregation? (strip line) with
      | some shape => (ofLine line).accept Recogniser.aggregation.name (strip line) shape
      | none => ofLine line := rfl

theorem ofPlainLine_source :
    ofPlainLine Recogniser.standard .source line =
      match Shape.table? (strip line) with
      | some shape => (ofLine line).accept Recogniser.table.name (strip line) shape
      | none => ofLine line := rfl

theorem ofPlainLine_filter :
    ofPlainLine Recogniser.standard .filter line =
      ((ofLine line).recognise .filter (strip line) .join).recognise .filter (strip line)
        .condition := rfl

theorem neutral_ofKeyword (keyword : Keyword) (line : Text) :
    (ofKeyword keyword line).Neutral line where
  text_eq := rfl
  replacement_eq_none := rfl
  not_aggregation h := by cases h
  not_table h := by cases h
  aliases_eq_nil := rfl

theorem neutral_ofLine (line : Text) : (ofLine line).Neutral line := ⟨rfl, rfl, nofun, nofun, rfl⟩

theorem Neutral.recognise {reading : Reading} (h : reading.Neutral line) (clause : Clause)
    {text : Text} {recogniser : Recogniser}
    (hShape : ∀ shape, recogniser.shape? text = some shape → shape.Neutral) :
    (reading.recognise clause text recogniser).Neutral line := by
  rw [Reading.recognise]
  split
  · split
    · rename_i shape hSome
      obtain ⟨hAggregation, hTable, hAlias⟩ := hShape shape hSome
      refine ⟨h.text_eq, h.replacement_eq_none, hAggregation, hTable, ?_⟩
      rw [accept, h.aliases_eq_nil, hAlias]
      rfl
    · exact h
  · exact h

theorem read_ofPlainLine (clause : Clause) (line : Text) :
    Read clause line (ofPlainLine Recogniser.standard clause line) := by
  cases clause with
  | select =>
    rw [ofPlainLine_select]
    cases hShape : Shape.aggregation? (strip line) with
    | none => exact .other (fun _ => hShape) nofun (neutral_ofLine line)
    | some shape =>
      obtain ⟨_, _, _, _, _, hLine, rfl⟩ := Shape.aggregation?_eq_some_iff.mp hShape
      exact .aggregation rfl hLine
  | source =>
    rw [ofPlainLine_source]
    cases hShape : Shape.table? (strip line) with
    | none => exact .other nofun (fun _ => hShape) (neutral_ofLine line)
    | some shape =>
      obtain ⟨_, _, _, hLine, rfl⟩ := Shape.table?_eq_some_iff.mp hShape
      exact .table rfl hLine
  | filter =>
    -- both recognisers run here, but neither finds a line that declares an alias
    rw [ofPlainLine_filter]
    refine .other nofun nofun (.recognise (.recognise (neutral_ofLine line) _ ?_) _ ?_)
    · exact fun shape => Shape.neutral_of_join?
    · exact fun shape => Shape.neutral_of_condition?
  | outside | groupBy | orderBy => exact .other nofun nofun (neutral_ofLine line)

end Reading

theorem read_readLine (clause : Clause) (line : Text) :
    Read clause line (readLine Recogniser.standard clause line) := by
  rw [readLine]
  cases hKeyword : Keyword.ofText? line with
  | none => exact Reading.read_ofPlainLine clause line
  | some keyword =>
    obtain rfl := Keyword.ofText?_eq_some_iff.mp hKeyword
    exact .other (fun _ => keyword.aggregation?_strip_text) (fun _ => keyword.table?_strip_text)
      (Reading.neutral_ofKeyword keyword keyword.text)

namespace Read

variable {clause : Clause} {line : Text} {reading : Reading}

theorem text_eq (h : Read clause line reading) : reading.fragment.text = line := by
  cases h with
  | aggregation | table => rfl
  | other _ _ hNeutral => exact hNeutral.text_eq

theorem replacement_eq_none (h : Read clause line reading) :
    reading.fragment.replacement = none := by
  cases h with
  | aggregation | table => rfl
  | other _ _ hNeutral => exact hNeutral.replacement_eq_none

theorem eq_of_aggregationLine {opening tableAlias column outputName : Text} {hasNext : Bool}
    (h : Read .select line reading)
    (hLine : AggregationLine (strip line) opening tableAlias column outputName hasNext) :
    reading = (Reading.ofLine line).accept Recogniser.aggregation.name (strip line)
      (.aggregation (strip opening) tableAlias column outputName hasNext) := by
  cases h with
  | aggregation _ hFound =>
    obtain ⟨hOpening, rfl, rfl, rfl, rfl⟩ := hFound.unique hLine
    rw [hOpening]
  | table hClause => cases hClause
  | other hNone =>
    rw [Shape.aggregation?_eq_some_iff.mpr ⟨_, _, _, _, _, hLine, rfl⟩] at hNone
    cases hNone rfl

theorem eq_of_tableLine {schema name tableAlias : Text} (h : Read .source line reading)
    (hLine : TableLine (strip line) schema name tableAlias) :
    reading = (Reading.ofLine line).accept Recogniser.table.name (strip line)
      (.table schema name tableAlias) := by
  cases h with
  | aggregation hClause => cases hClause
  | table _ hFound =>
    obtain ⟨rfl, rfl, rfl⟩ := hFound.unique hLine
    rfl
  | other _ hNone =>
    rw [Shape.table?_eq_some_iff.mpr ⟨_, _, _, hLine, rfl⟩] at hNone
    cases hNone rfl

theorem mem_aliases_iff (h : Read clause line reading) {tableAlias : Text} :
    tableAlias ∈ reading.aliases ↔
      (clause = .source ∧ ∃ schema name, TableLine (strip line) schema name tableAlias) ∨
        (clause = .select ∧ ∃ opening column outputName hasNext,
          AggregationLine (strip line) opening tableAlias column outputName hasNext) := by
  constructor
  · intro hMem
    cases h with
    | aggregation hClause hLine =>
      obtain rfl := List.mem_singleton.mp hMem
      exact .inr ⟨hClause, _, _, _, _, hLine⟩
    | table hClause hLine =>
      obtain rfl := List.mem_singleton.mp hMem
      exact .inl ⟨hClause, _, _, hLine⟩
    | other _ _ hNeutral =>
      rw [hNeutral.aliases_eq_nil] at hMem
      cases hMem
  · rintro (⟨rfl, schema, name, hTable⟩ | ⟨rfl, opening, column, outputName, hasNext, hLine⟩)
    · obtain rfl := h.eq_of_tableLine hTable
      exact List.mem_singleton_self _
    · obtain rfl := h.eq_of_aggregationLine hLine
      exact List.mem_singleton_self _

end Read
end QueryPatch
