import QueryPatch.Line.Shape
import Mathlib.Data.List.TakeWhile

/-! # The grammar of lines

The layouts of aggregation and table lines, written out, and that the readers accept exactly these.
Quotes stand in no word and in no opening of a call, so a line has at most one reading.
-/
set_option autoImplicit false

namespace QueryPatch

namespace Text

def IsWord (text : Text) : Prop := text ≠ [] ∧ ∀ c ∈ text, isWordChar c = true

instance (text : Text) : Decidable (IsWord text) :=
  decidable_of_decidable_of_iff (p := text ≠ [] ∧ text.all isWordChar = true) <| by
    rw [IsWord, List.all_eq_true]

def inQuotes (word : Text) : Text := '"' :: word ++ ['"']

def comma (hasNext : Bool) : Text := if hasNext then [','] else []

/-- Where a run of a class of code points ends, if the text goes on outside the class. -/
theorem takeWhile_dropWhile_append {own : Char → Bool} {run rest : Text}
    (hRun : ∀ c ∈ run, own c = true) (hRest : ∀ c ∈ rest.head?, own c = false) :
    (run ++ rest).takeWhile own = run ∧ (run ++ rest).dropWhile own = rest := by
  rw [List.takeWhile_append_of_pos hRun, List.dropWhile_append_of_pos hRun]
  cases rest with
  | nil => simp
  | cons c rest => simp [hRest c rfl]

theorem word?_eq_some_iff {text word rest : Text} :
    word? text = some (word, rest) ↔
      IsWord word ∧ text = word ++ rest ∧ ∀ c ∈ rest.head?, isWordChar c = false := by
  constructor
  · intro h
    have hText := text.takeWhile_append_dropWhile (p := isWordChar)
    rw [word?] at h
    split at h
    · cases h
    · rename_i hne
      cases h
      refine ⟨⟨hne, fun c hc => List.mem_takeWhile_imp hc⟩, hText.symm, ?_⟩
      intro c hc
      have hHead := List.head?_dropWhile_not isWordChar text
      rw [Option.mem_def.mp hc] at hHead
      simpa using hHead
  · rintro ⟨⟨hne, hWord⟩, rfl, hRest⟩
    obtain ⟨hTake, hDrop⟩ := takeWhile_dropWhile_append hWord hRest
    rw [word?, hTake, hDrop]
    cases word with
    | nil => exact absurd rfl hne
    | cons c word => rfl

theorem name?_eq_some_iff {text word rest : Text} :
    name? text = some (word, rest) ↔ IsWord word ∧ text = inQuotes word ++ rest := by
  simp only [name?, Option.bind_eq_bind, Option.bind_eq_some_iff, after?_eq_some_iff]
  constructor
  · rintro ⟨_, rfl, ⟨w, _⟩, hRead, _, rfl, hEnd⟩
    obtain ⟨hWord, rfl, -⟩ := word?_eq_some_iff.mp hRead
    cases hEnd
    exact ⟨hWord, by simp [inQuotes]⟩
  · rintro ⟨hWord, rfl⟩
    refine ⟨word ++ '"' :: rest, by simp [inQuotes], (word, '"' :: rest), ?_, rest, rfl, rfl⟩
    refine word?_eq_some_iff.mpr ⟨hWord, rfl, ?_⟩
    rintro c ⟨⟩
    decide

theorem namePair?_eq_some_iff {text first second rest : Text} :
    namePair? text = some ((first, second), rest) ↔
      IsWord first ∧ IsWord second ∧
        ∃ mark, mark ≠ '\n' ∧ text = inQuotes first ++ mark :: inQuotes second ++ rest := by
  simp only [namePair?, Option.bind_eq_bind, Option.bind_eq_some_iff]
  constructor
  · rintro ⟨⟨w, tail⟩, hRead, hTail⟩
    obtain ⟨hFirst, rfl⟩ := name?_eq_some_iff.mp hRead
    cases tail with
    | nil => cases hTail
    | cons mark tail =>
      dsimp only at hTail
      split at hTail
      · cases hTail
      · rename_i hMark
        obtain ⟨⟨v, tail⟩, hRead, hEnd⟩ := Option.bind_eq_some_iff.mp hTail
        obtain ⟨hSecond, rfl⟩ := name?_eq_some_iff.mp hRead
        cases hEnd
        exact ⟨hFirst, hSecond, mark, hMark, by simp⟩
  · rintro ⟨hFirst, hSecond, mark, hMark, rfl⟩
    refine ⟨(first, mark :: (inQuotes second ++ rest)), name?_eq_some_iff.mpr ⟨hFirst, by simp⟩, ?_⟩
    dsimp only
    rw [if_neg hMark, name?_eq_some_iff.mpr ⟨hSecond, rfl⟩]
    rfl

theorem itemEnd?_eq_some_iff {text : Text} {hasNext : Bool} :
    itemEnd? text = some hasNext ↔ text = comma hasNext := by
  cases hasNext <;> unfold itemEnd? comma <;> split <;> simp_all

end Text

open Text

/-- `opening "tableAlias" mark "column") as "outputName"`, without the blanks between, and a comma
if another item follows. -/
structure AggregationLine (line opening tableAlias column outputName : Text) (hasNext : Bool) :
    Prop where
  opening_ne_nil : opening ≠ []
  opening_chars : ∀ c ∈ opening, isWordChar c = true ∨ c = ' ' ∨ c = '('
  tableAlias_isWord : IsWord tableAlias
  column_isWord : IsWord column
  outputName_isWord : IsWord outputName
  layout : ∃ mark, mark ≠ '\n' ∧
    line = opening ++ inQuotes tableAlias ++ mark :: inQuotes column ++ ") as ".toList ++
      inQuotes outputName ++ comma hasNext

/-- `"schema" mark "name" as "tableAlias"`, without the blanks around the mark, and perhaps a
comma. -/
structure TableLine (line schema name tableAlias : Text) : Prop where
  schema_isWord : IsWord schema
  name_isWord : IsWord name
  tableAlias_isWord : IsWord tableAlias
  layout : ∃ mark hasNext, mark ≠ '\n' ∧
    line = inQuotes schema ++ mark :: inQuotes name ++ " as ".toList ++ inQuotes tableAlias ++
      comma hasNext

namespace Shape

theorem isFunctionChar_iff (c : Char) :
    isFunctionChar c = true ↔ isWordChar c = true ∨ c = ' ' ∨ c = '(' := by
  simp [isFunctionChar, or_assoc]

theorem aggregation?_eq_some_iff {line : Text} {shape : Shape} :
    aggregation? line = some shape ↔
      ∃ opening tableAlias column outputName hasNext,
        AggregationLine line opening tableAlias column outputName hasNext ∧
          shape = .aggregation (strip opening) tableAlias column outputName hasNext := by
  constructor
  · intro h
    have hLine := line.takeWhile_append_dropWhile (p := isFunctionChar)
    have hOpening : ∀ c ∈ line.takeWhile isFunctionChar, isFunctionChar c = true :=
      fun c hc => List.mem_takeWhile_imp hc
    simp only [aggregation?, Option.bind_eq_bind] at h
    generalize line.takeWhile isFunctionChar = opening at h hLine hOpening
    split at h
    · cases h
    · rename_i hne
      obtain ⟨⟨⟨tableAlias, column⟩, rest⟩, hPair, h⟩ := Option.bind_eq_some_iff.mp h
      obtain ⟨afterPair, hAs, h⟩ := Option.bind_eq_some_iff.mp h
      obtain ⟨⟨outputName, tail⟩, hName, h⟩ := Option.bind_eq_some_iff.mp h
      obtain ⟨hasNext, hEnd, h⟩ := Option.bind_eq_some_iff.mp h
      obtain ⟨hAlias, hColumn, mark, hMark, hRest⟩ := namePair?_eq_some_iff.mp hPair
      obtain ⟨hOutput, hAfterPair⟩ := name?_eq_some_iff.mp hName
      have hAs : rest = ") as ".toList ++ afterPair := after?_eq_some_iff.mp hAs
      have hEnd : tail = comma hasNext := itemEnd?_eq_some_iff.mp hEnd
      refine ⟨opening, tableAlias, column, outputName, hasNext, ⟨?_, ?_, hAlias, hColumn, hOutput,
        mark, hMark, ?_⟩, (Option.some.inj h).symm⟩
      · simpa using hne
      · exact fun c hc => (isFunctionChar_iff c).mp (hOpening c hc)
      · rw [← hLine, hRest, hAs, hAfterPair, hEnd]
        simp only [List.append_assoc, List.cons_append]
  · rintro ⟨opening, tableAlias, column, outputName, hasNext, h, rfl⟩
    obtain ⟨hne, hOpening, hAlias, hColumn, hOutput, mark, hMark, rfl⟩ := h
    generalize hAs : ") as ".toList ++ inQuotes outputName ++ comma hasNext = rest
    have hLine : opening ++ inQuotes tableAlias ++ mark :: inQuotes column ++ ") as ".toList ++
        inQuotes outputName ++ comma hasNext =
        opening ++ (inQuotes tableAlias ++ mark :: inQuotes column ++ rest) := by
      simp only [← hAs, List.append_assoc, List.cons_append]
    have hRun : ∀ c ∈ opening, isFunctionChar c = true :=
      fun c hc => (isFunctionChar_iff c).mpr (hOpening c hc)
    have hStop : ∀ c ∈ (inQuotes tableAlias ++ mark :: inQuotes column ++ rest).head?,
        isFunctionChar c = false := by
      rintro c ⟨⟩
      decide
    obtain ⟨hTake, hDrop⟩ := takeWhile_dropWhile_append hRun hStop
    rw [aggregation?, hLine, hTake, hDrop]
    simp only [List.isEmpty_iff, hne, if_false, Option.bind_eq_bind, Option.bind_eq_some_iff]
    refine ⟨((tableAlias, column), rest),
      namePair?_eq_some_iff.mpr ⟨hAlias, hColumn, mark, hMark, rfl⟩,
      inQuotes outputName ++ comma hasNext, after?_eq_some_iff.mpr ?_,
      (outputName, comma hasNext), name?_eq_some_iff.mpr ⟨hOutput, rfl⟩,
      hasNext, itemEnd?_eq_some_iff.mpr rfl, rfl⟩
    rw [← hAs, List.append_assoc]

theorem table?_eq_some_iff {line : Text} {shape : Shape} :
    table? line = some shape ↔
      ∃ schema name tableAlias,
        TableLine line schema name tableAlias ∧ shape = .table schema name tableAlias := by
  simp only [table?, Option.bind_eq_bind, Option.bind_eq_some_iff]
  constructor
  · rintro ⟨⟨⟨schema, name⟩, rest⟩, hPair, afterPair, hAs, ⟨tableAlias, tail⟩, hName, hasNext, hEnd,
      h⟩
    obtain ⟨hSchema, hTable, mark, hMark, hLine⟩ := namePair?_eq_some_iff.mp hPair
    obtain ⟨hAlias, hAfterPair⟩ := name?_eq_some_iff.mp hName
    have hAs : rest = " as ".toList ++ afterPair := after?_eq_some_iff.mp hAs
    have hEnd : tail = comma hasNext := itemEnd?_eq_some_iff.mp hEnd
    refine ⟨schema, name, tableAlias, ⟨hSchema, hTable, hAlias, mark, hasNext, hMark, ?_⟩,
      (Option.some.inj h).symm⟩
    rw [hLine, hAs, hAfterPair, hEnd]
    simp only [List.append_assoc, List.cons_append]
  · rintro ⟨schema, name, tableAlias, ⟨hSchema, hTable, hAlias, mark, hasNext, hMark, rfl⟩, rfl⟩
    refine ⟨((schema, name), " as ".toList ++ (inQuotes tableAlias ++ comma hasNext)),
      namePair?_eq_some_iff.mpr ⟨hSchema, hTable, mark, hMark, ?_⟩,
      inQuotes tableAlias ++ comma hasNext, after?_eq_some_iff.mpr rfl,
      (tableAlias, comma hasNext), name?_eq_some_iff.mpr ⟨hAlias, rfl⟩,
      hasNext, itemEnd?_eq_some_iff.mpr rfl, rfl⟩
    simp only [List.append_assoc]

end Shape
end QueryPatch
