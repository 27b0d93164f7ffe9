import QueryPatch.Proofs.Line.Grammar
import QueryPatch.Fragment.Role

/-! # The line that asks for a cardinality

The line that takes the place of an aggregation is read as plain text: it is no keyword, no
aggregation and no table. Its call closes twice, which no aggregation line does.
-/
set_option autoImplicit false

namespace QueryPatch

open Text

def cardinalityLine (tableAlias column outputName : Text) (hasNext : Bool) : Text :=
  "    hll_cardinality(hll_union_agg(\"" ++ tableAlias ++ "\".\"" ++ column ++ "\")) as \"" ++
    outputName ++ "\"" ++ comma hasNext

/-- The line without the blanks before it, quotes around names set apart. -/
def cardinalityItem (tableAlias column outputName : Text) (hasNext : Bool) : Text :=
  "hll_cardinality(hll_union_agg(".toList ++
    (inQuotes tableAlias ++ '.' :: inQuotes column ++
      (")) as ".toList ++ inQuotes outputName ++ comma hasNext))

/-- The code points that cardinality lines are written in. -/
def isCardinalityChar (c : Char) : Bool :=
  isWordChar c || [' ', '(', ')', '"', '.', ','].contains c

theorem Text.strip_append {blank body : Text} (hBlank : ∀ c ∈ blank, isBlank c = true)
    (hFirst : ∀ c ∈ body.head?, isBlank c = false)
    (hLast : ∀ c ∈ body.getLast?, isBlank c = false) : strip (blank ++ body) = body := by
  rw [strip, (takeWhile_dropWhile_append hBlank hFirst).2, stripEnd]
  have hReverse : ∀ c ∈ body.reverse.head?, isBlank c = false := by rwa [List.head?_reverse]
  have hNone : ∀ c ∈ ([] : Text), isBlank c = true := nofun
  rw [← List.nil_append body.reverse, (takeWhile_dropWhile_append hNone hReverse).2,
    List.reverse_reverse]

section cardinalityLine

variable {tableAlias column outputName : Text} {hasNext : Bool}

theorem cardinalityLine_eq (tableAlias column outputName : Text) (hasNext : Bool) :
    cardinalityLine tableAlias column outputName hasNext =
      "    ".toList ++ cardinalityItem tableAlias column outputName hasNext := by
  unfold cardinalityLine cardinalityItem inQuotes
  simp only [String.reduceToList, List.cons_append, List.nil_append, List.append_assoc]

theorem getLast?_cardinalityItem (tableAlias column outputName : Text) (hasNext : Bool) :
    (cardinalityItem tableAlias column outputName hasNext).getLast? =
      some (if hasNext then ',' else '"') := by
  unfold cardinalityItem inQuotes
  cases hasNext with
  | false => simp only [comma, Bool.false_eq_true, if_false, List.append_nil, ← List.append_assoc,
      List.getLast?_concat]
  | true => simp only [comma, if_true, ← List.append_assoc, List.getLast?_concat]

theorem strip_cardinalityLine (tableAlias column outputName : Text) (hasNext : Bool) :
    strip (cardinalityLine tableAlias column outputName hasNext) =
      cardinalityItem tableAlias column outputName hasNext := by
  rw [cardinalityLine_eq]
  apply strip_append
  · exact List.all_eq_true.mp rfl
  · rintro c ⟨⟩
    decide
  · rw [getLast?_cardinalityItem]
    rintro c ⟨⟩
    cases hasNext <;> decide

theorem cardinalityLine_ne_keyword (keyword : Keyword) :
    cardinalityLine tableAlias column outputName hasNext ≠ keyword.text := by
  intro h
  have hHead := congrArg List.head? h
  cases keyword <;> cases hHead

theorem not_tableLine_cardinalityLine {schema name otherAlias : Text} :
    ¬ TableLine (strip (cardinalityLine tableAlias column outputName hasNext)) schema name
      otherAlias := by
  rw [strip_cardinalityLine]
  rintro ⟨-, -, -, mark, hasNext', -, hLine⟩
  have hHead := congrArg List.head? hLine
  cases hHead

theorem not_aggregationLine_cardinalityLine {opening otherAlias otherColumn otherName : Text}
    {otherNext : Bool} (isWord_tableAlias : IsWord tableAlias) (isWord_column : IsWord column) :
    ¬ AggregationLine (strip (cardinalityLine tableAlias column outputName hasNext)) opening
      otherAlias otherColumn otherName otherNext := by
  intro hLine
  have hShape := Shape.aggregation?_eq_some_iff.mpr ⟨_, _, _, _, _, hLine, rfl⟩
  rw [strip_cardinalityLine] at hShape
  unfold cardinalityItem at hShape
  generalize hRest : ")) as ".toList ++ inQuotes outputName ++ comma hasNext = rest at hShape
  have hPair : namePair? (inQuotes tableAlias ++ '.' :: inQuotes column ++ rest) =
      some ((tableAlias, column), rest) :=
    namePair?_eq_some_iff.mpr ⟨isWord_tableAlias, isWord_column, '.', by decide, rfl⟩
  have hOpening : ∀ c ∈ "hll_cardinality(hll_union_agg(".toList, Shape.isFunctionChar c = true :=
    List.all_eq_true.mp rfl
  have hStop : ∀ c ∈ (inQuotes tableAlias ++ '.' :: inQuotes column ++ rest).head?,
      Shape.isFunctionChar c = false := by
    rintro c ⟨⟩
    decide
  obtain ⟨hTake, hDrop⟩ := takeWhile_dropWhile_append hOpening hStop
  -- after the pair of names a second bracket stands where an aggregation goes on
  have hAs : after? ") as ".toList rest = none := by
    rw [← hRest]
    rfl
  rw [Shape.aggregation?, hTake, hDrop, hPair] at hShape
  change (after? ") as ".toList rest).bind _ = _ at hShape
  rw [hAs] at hShape
  cases hShape

theorem isCardinalityChar_of_mem (isWord_tableAlias : IsWord tableAlias)
    (isWord_column : IsWord column) (isWord_outputName : IsWord outputName) :
    ∀ c ∈ cardinalityLine tableAlias column outputName hasNext, isCardinalityChar c = true := by
  have hWord : ∀ {word : Text}, IsWord word → ∀ c ∈ word, isCardinalityChar c = true :=
    fun h c hc => by rw [isCardinalityChar, h.2 c hc, Bool.true_or]
  have hComma : ∀ c ∈ comma hasNext, isCardinalityChar c = true := by
    cases hasNext <;> exact List.all_eq_true.mp rfl
  unfold cardinalityLine
  simp only [List.forall_mem_append]
  refine ⟨⟨⟨⟨⟨⟨⟨?_, hWord isWord_tableAlias⟩, ?_⟩, hWord isWord_column⟩, ?_⟩,
    hWord isWord_outputName⟩, ?_⟩, hComma⟩ <;> exact List.all_eq_true.mp rfl

end cardinalityLine

end QueryPatch
