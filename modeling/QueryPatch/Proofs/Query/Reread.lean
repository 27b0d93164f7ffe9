import QueryPatch.Proofs.Query.Repatched

/-! # Patched lines, read again

A replaced line stands in the same clause as before, is read as plain text there and declares
nothing. All other lines are read as they were, and each name is still declared last on the line
on which it was declared last before.
-/
set_option autoImplicit false

namespace QueryPatch

open Text

theorem Clause.next_of_ne_keyword (clause : Clause) {text : Text}
    (h : ∀ keyword : Keyword, text ≠ keyword.text) : clause.next text = clause := by
  rw [Clause.next, Keyword.ofText?_eq_none_iff.mpr h]

/-- The name is declared on the line. -/
def Declares (names : Reading → List Text) (readings : List Reading) (name : Text) (line : Nat) :
    Prop :=
  ∃ reading, readings[line]? = some reading ∧ name ∈ names reading

theorem exists_lastDeclaration_iff {names : Reading → List Text} {readings : List Reading}
    {name : Text} {line : Nat} :
    (∃ reading, LastDeclaration names readings name line reading) ↔
      Declares names readings name line ∧
        ∀ later, line < later → ¬ Declares names readings name later := by
  constructor
  · rintro ⟨reading, hHere, hDeclares, hLater⟩
    refine ⟨⟨reading, hHere, hDeclares⟩, ?_⟩
    rintro later hLess ⟨other, hOther, hMem⟩
    exact hLater later other hLess hOther hMem
  · rintro ⟨⟨reading, hHere, hDeclares⟩, hLater⟩
    exact ⟨reading, hHere, hDeclares,
      fun later other hLess hOther hMem => hLater later hLess ⟨other, hOther, hMem⟩⟩

/-- Declarations that are dropped change nothing if a later one of the same name stays. -/
theorem Query.get?_declarations_congr {names : Reading → List Text}
    {readings readings' : List Reading} {name : Text}
    (hFewer : ∀ line, Declares names readings' name line → Declares names readings name line)
    (hLater : ∀ line, Declares names readings name line →
      ∃ later, line ≤ later ∧ Declares names readings' name later) :
    Keyed.get? (Registry.ofDeclarations (declarations names readings')) name =
      Keyed.get? (Registry.ofDeclarations (declarations names readings)) name := by
  apply Option.ext
  intro line
  rw [get?_declarations_eq_some_iff, get?_declarations_eq_some_iff, exists_lastDeclaration_iff,
    exists_lastDeclaration_iff]
  constructor
  · rintro ⟨hHere, hLast⟩
    refine ⟨hFewer line hHere, fun later hLess hDeclares => ?_⟩
    obtain ⟨last, hLe, hStill⟩ := hLater later hDeclares
    exact hLast last (Nat.lt_of_lt_of_le hLess hLe) hStill
  · rintro ⟨hHere, hLast⟩
    have hNone : ∀ later, line < later → ¬ Declares names readings' name later :=
      fun later hLess hDeclares => hLast later hLess (hFewer later hDeclares)
    obtain ⟨last, hLe, hStill⟩ := hLater line hHere
    rcases Nat.eq_or_lt_of_le hLe with rfl | hLess
    · exact ⟨hStill, hNone⟩
    · exact absurd hStill (hNone last hLess)

section patchedLines

variable {lines : List Text} {columns : ColumnSet} {line : Nat}
  {tableAlias column outputName : Text} {hasNext : Bool}

theorem clause_patchedLines (columns : ColumnSet) (lines : List Text) (line : Nat) :
    Clause.outside.after ((patchedLines columns lines).take line) =
      Clause.outside.after (lines.take line) := by
  induction line with
  | zero => rfl
  | succ line ih =>
    rw [Clause.after_take_succ, Clause.after_take_succ, ih]
    rcases getElem?_patchedLines_cases lines columns line with ⟨_, _, _, _, h, hNew⟩ | ⟨-, hKept⟩
    · obtain ⟨text, _, hText, -⟩ := h.aggregation
      have hPlain : ∀ keyword : Keyword, text ≠ keyword.text :=
        fun keyword hSame => h.not_keyword keyword (hSame ▸ hText)
      rw [hNew, hText]
      dsimp only
      rw [Clause.next_of_ne_keyword _ cardinalityLine_ne_keyword,
        Clause.next_of_ne_keyword _ hPlain]
    · rw [hKept]

theorem readLine_cardinalityLine (isWord_tableAlias : IsWord tableAlias)
    (isWord_column : IsWord column) :
    readLine Recogniser.standard .select (cardinalityLine tableAlias column outputName hasNext) =
      Reading.ofLine (cardinalityLine tableAlias column outputName hasNext) := by
  have hShape : Shape.aggregation?
      (strip (cardinalityLine tableAlias column outputName hasNext)) = none := by
    rw [Option.eq_none_iff_forall_ne_some]
    intro shape hSome
    obtain ⟨_, _, _, _, _, hLine, -⟩ := Shape.aggregation?_eq_some_iff.mp hSome
    exact not_aggregationLine_cardinalityLine isWord_tableAlias isWord_column hLine
  rw [readLine, Keyword.ofText?_eq_none_iff.mpr cardinalityLine_ne_keyword]
  dsimp only
  rw [Reading.ofPlainLine_select, hShape]

/-- The readings of the lines after patching. -/
theorem getElem?_readLines_patchedLines_cases (lines : List Text) (columns : ColumnSet)
    (line : Nat) :
    (∃ tableAlias column outputName hasNext,
      AggregatesSketch lines columns line tableAlias column outputName hasNext ∧
        (readLines Recogniser.standard .outside (patchedLines columns lines))[line]? =
          some (.ofLine (cardinalityLine tableAlias column outputName hasNext))) ∨
      (∀ tableAlias column outputName hasNext,
        ¬ AggregatesSketch lines columns line tableAlias column outputName hasNext) ∧
        (readLines Recogniser.standard .outside (patchedLines columns lines))[line]? =
          (readLines Recogniser.standard .outside lines)[line]? := by
  rw [getElem?_readLines, getElem?_readLines, clause_patchedLines]
  rcases getElem?_patchedLines_cases lines columns line with ⟨_, _, _, _, h, hNew⟩ | ⟨hNone, hKept⟩
  · refine .inl ⟨_, _, _, _, h, ?_⟩
    rw [hNew, Clause.after_take_eq_select_iff.mpr h.after_select, Option.map_some,
      readLine_cardinalityLine h.isWord.1 h.isWord.2.1]
  · exact .inr ⟨hNone, by rw [hKept]⟩

theorem AggregatesSketch.joins_eq_nil {reading : Reading}
    (h : AggregatesSketch lines columns line tableAlias column outputName hasNext)
    (hReading : (readLines Recogniser.standard .outside lines)[line]? = some reading) :
    reading.joins = [] := by
  obtain ⟨text, opening, hText, hLine, -⟩ := h.aggregation
  obtain ⟨text', hText', hRead⟩ := read_of_getElem? hReading
  obtain rfl := Option.some.inj (hText.symm.trans hText')
  rw [Clause.after_take_eq_select_iff.mpr h.after_select] at hRead
  rw [hRead.eq_of_aggregationLine hLine]
  rfl

theorem Declares.of_patchedLines {names : Reading → List Text} {name : Text}
    (hPlain : ∀ text, names (.ofLine text) = [])
    (h : Declares names (readLines Recogniser.standard .outside (patchedLines columns lines)) name
      line) : Declares names (readLines Recogniser.standard .outside lines) name line := by
  obtain ⟨reading, hReading, hMem⟩ := h
  rcases getElem?_readLines_patchedLines_cases lines columns line with
    ⟨_, _, _, _, -, hNew⟩ | ⟨-, hKept⟩
  · obtain rfl := Option.some.inj (hNew.symm.trans hReading)
    rw [hPlain] at hMem
    cases hMem
  · exact ⟨reading, hKept.symm.trans hReading, hMem⟩

theorem declares_aliases_iff :
    Declares (·.aliases) (readLines Recogniser.standard .outside lines) tableAlias line ↔
      DeclaresAlias lines tableAlias line := by
  constructor
  · rintro ⟨reading, hReading, hMem⟩
    exact (mem_aliases_iff_declaresAlias hReading).mp hMem
  · intro h
    have hLength : line < (readLines Recogniser.standard .outside lines).length := by
      rw [length_readLines]
      exact declaresAlias_lt h
    have hReading := List.getElem?_eq_getElem hLength
    exact ⟨_, hReading, (mem_aliases_iff_declaresAlias hReading).mpr h⟩

/-- Every table alias is declared where it was, though replaced lines declare none. -/
theorem get?_aliases_patchedLines (columns : ColumnSet) (lines : List Text) (name : Text) :
    Keyed.get? (Query.ofLines (patchedLines columns lines)).aliases name =
      Keyed.get? (Query.ofLines lines).aliases name := by
  apply Query.get?_declarations_congr
  · exact fun line h => h.of_patchedLines fun _ => rfl
  · intro line h
    obtain ⟨later, hLe, hStill⟩ := (declares_aliases_iff.mp h).exists_patchedLines columns
    exact ⟨later, hLe, declares_aliases_iff.mpr hStill⟩

theorem get?_joins_patchedLines (columns : ColumnSet) (lines : List Text) (name : Text) :
    Keyed.get? (Query.ofLines (patchedLines columns lines)).joins name =
      Keyed.get? (Query.ofLines lines).joins name := by
  apply Query.get?_declarations_congr
  · exact fun line h => h.of_patchedLines fun _ => rfl
  · rintro line ⟨reading, hReading, hMem⟩
    refine ⟨line, Nat.le_refl line, reading, ?_, hMem⟩
    rcases getElem?_readLines_patchedLines_cases lines columns line with
      ⟨_, _, _, _, h, -⟩ | ⟨-, hKept⟩
    · change name ∈ reading.joins at hMem
      rw [h.joins_eq_nil hReading] at hMem
      cases hMem
    · exact hKept.trans hReading

end patchedLines

end QueryPatch
