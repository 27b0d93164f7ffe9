import QueryPatch.Proofs.Patch.Outcome
import QueryPatch.Proofs.Query.Sketch
import QueryPatch.Proofs.Text.Cut

/-! # Patching, line by line

What patching by the standard rules makes of a text: the lines that sum or count a sketch column are
replaced, and all others stay.
-/
set_option autoImplicit false

namespace QueryPatch

open Text

namespace Patcher

variable {α : Type} {patcher : Patcher} {columns : ColumnSet} {sql candidate : Text}
  {lines : List Text}

theorem proposes_standard_iff (hRules : patcher.rules = Rule.standard)
    (hSplit : split patcher.settings.separator sql = some lines) :
    patcher.Proposes columns (.text sql : Source α) candidate ↔
      Patches columns lines ∧
        candidate = join patcher.settings.separator (patchedLines columns lines) := by
  obtain ⟨flag, hFlag, hRan⟩ := Rule.ran_standard columns lines
  have hReadings : (Source.text sql : Source α).readings? patcher.settings.separator =
      .ok (readLines Recogniser.standard .outside lines) := Query.readings?_eq_ok hSplit
  rw [← Query.map_rendered_replaced]
  constructor
  · rintro ⟨readings, flags, query, hReadings', hRan', hTrue, rfl⟩
    rw [hReadings] at hReadings'
    cases hReadings'
    rw [hRules] at hRan'
    obtain ⟨rfl, rfl⟩ := hRan.unique hRan'
    exact ⟨hFlag.mp (List.mem_singleton.mp hTrue).symm, rfl⟩
  · rintro ⟨hPatches, rfl⟩
    refine ⟨_, _, _, hReadings, hRules ▸ hRan, ?_, rfl⟩
    rw [hFlag.mpr hPatches]
    exact List.mem_singleton_self true

theorem answer_patch_standard (hRules : patcher.rules = Rule.standard)
    (hValidates : patcher.settings.validates = false)
    (hSplit : split patcher.settings.separator sql = some lines) (sketchType : Text)
    (connection : Option Connection) :
    (patcher.patch sketchType (some columns) connection (.text sql : Source α)).answer =
      .text (join patcher.settings.separator (patchedLines columns lines)) := by
  have hOutcome := patcher.outcome_patch sketchType (some columns) connection
    (.text sql : Source α)
  by_cases hPatches : Patches columns lines
  · refine hOutcome.answer_of_accepts
      ⟨(proposes_standard_iff hRules hSplit).mpr ⟨hPatches, rfl⟩, fun h => ?_⟩
    rw [hValidates] at h
    cases h
  · have hNone : ∀ candidate, ¬ patcher.Accepts columns (.text sql : Source α) candidate :=
      fun candidate h => hPatches ((proposes_standard_iff hRules hSplit).mp h.1).1
    rw [hOutcome.answer_of_not_accepts hNone, patchedLines_eq_self hPatches,
      ((split_eq_some_iff (ne_nil_of_split hSplit)).mp hSplit).2]

/-- With columns at hand and no validation, patching by the standard rules replaces the lines that
sum or count a sketch column and keeps all others, for every text and every separator. -/
theorem patch_linewise (patcher : Patcher) (hRules : patcher.rules = Rule.standard)
    (hValidates : patcher.settings.validates = false)
    (hSeparator : patcher.settings.separator ≠ []) (columns : ColumnSet) (sketchType : Text)
    (connection : Option Connection) (sql : Text) :
    ∃ lines patched, split patcher.settings.separator sql = some lines ∧
      (patcher.patch sketchType (some columns) connection (.text sql : Source α)).answer =
        .text (join patcher.settings.separator patched) ∧
      patched.length = lines.length ∧
      ∀ line,
        (∀ tableAlias column outputName hasNext,
          AggregatesSketch lines columns line tableAlias column outputName hasNext →
          patched[line]? = some (cardinalityLine tableAlias column outputName hasNext)) ∧
        ((∀ tableAlias column outputName hasNext,
          ¬ AggregatesSketch lines columns line tableAlias column outputName hasNext) →
          patched[line]? = lines[line]?) := by
  obtain ⟨lines, hSplit⟩ := exists_split hSeparator sql
  refine ⟨lines, patchedLines columns lines, hSplit,
    answer_patch_standard hRules hValidates hSplit sketchType connection,
    length_patchedLines columns lines, ?_⟩
  intro line
  rcases getElem?_patchedLines_cases lines columns line with
    ⟨tableAlias, column, outputName, hasNext, hSketch, hNew⟩ | ⟨hNone, hKept⟩
  · constructor
    · intro tableAlias' column' outputName' hasNext' h
      obtain ⟨rfl, rfl, rfl, rfl⟩ := hSketch.unique h
      exact hNew
    · intro hNone
      exact absurd hSketch (hNone tableAlias column outputName hasNext)
  · constructor
    · intro tableAlias column outputName hasNext h
      exact absurd h (hNone tableAlias column outputName hasNext)
    · exact fun _ => hKept

def sumOfSketch : List Text :=
  ["select", "sum(\"t\".\"v\") as \"m\"", "from", "\"s\".\"b\" as \"t\""]

theorem aggregatesSketch_sumOfSketch :
    AggregatesSketch sumOfSketch ["s.b.v"] 1 "t" "v" "m" false where
  not_keyword keyword := by cases keyword <;> decide
  after_select := ⟨0, Nat.zero_lt_one, rfl, fun between h₁ h₂ => by omega⟩
  aggregation := by
    refine ⟨_, "sum(", rfl, ⟨by decide, ?_, by decide, by decide, by decide, '.', ?_⟩, .inl rfl⟩
    · exact fun c hc => (Shape.isFunctionChar_iff c).mp (List.all_eq_true.mp rfl c hc)
    · decide
  sketch := by
    refine ⟨"s", "b", ⟨3, _, rfl, ⟨2, by decide, rfl, fun between h₁ h₂ => by omega⟩, ?_, ?_⟩, ?_⟩
    · exact ⟨by decide, by decide, by decide, '.', false, by decide⟩
    · intro later hLater hDeclares
      have hLength := declaresAlias_lt hDeclares
      rw [sumOfSketch, List.length_cons] at hLength
      exact absurd hLength (Nat.not_lt.mpr hLater)
    · decide

theorem patch_linewise_sumOfSketch :
    ({} : Patcher).rules = Rule.standard ∧ ({} : Patcher).settings.validates = false ∧
      ({} : Patcher).settings.separator ≠ [] ∧
      ∃ patched : List Text,
        (({} : Patcher).patch "hll" (some ["s.b.v"]) none
          (.text (join "\n" sumOfSketch) : Source Unit)).answer = .text (join "\n" patched) ∧
        patched[1]? = some (cardinalityLine "t" "v" "m" false) := by
  refine ⟨rfl, rfl, by decide, ?_⟩
  obtain ⟨lines, patched, hSplit, hAnswer, -, hLines⟩ :=
    patch_linewise (α := Unit) {} rfl rfl (by decide) ["s.b.v"] "hll" none (join "\n" sumOfSketch)
  have hLines' : split "\n" (join "\n" sumOfSketch) = some sumOfSketch :=
    (split_eq_some_iff (by decide)).mpr ⟨Cut.of_not_mem (by decide) (by decide), rfl⟩
  obtain rfl : lines = sumOfSketch := Option.some.inj (hSplit.symm.trans hLines')
  exact ⟨patched, hAnswer, (hLines 1).1 _ _ _ _ aggregatesSketch_sumOfSketch⟩

end Patcher

end QueryPatch
