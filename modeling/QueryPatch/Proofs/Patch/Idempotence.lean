import QueryPatch.Proofs.Patch.Linewise
import QueryPatch.Proofs.Query.Repatched

/-! # Patching again

A patched text is left alone when it is patched again: it is cut into the patched lines, and the
rules find nothing to replace in them.
-/
set_option autoImplicit false

namespace QueryPatch

open Text

theorem Rule.applyAll_of_not_patches {columns : ColumnSet} {lines : List Text}
    (h : ¬ Patches columns lines) :
    Rule.applyAll columns Rule.standard (.ofLines lines) = (.ofLines lines, .ok false) := by
  obtain ⟨flag, hFlag, hRan⟩ := Rule.ran_standard columns lines
  have hSame := Query.replaced_eq_self
    (fun fragment hFragment => Query.replacement_eq_none_of_mem hFragment)
    fun fragment hFragment => Option.not_isSome_iff_eq_none.mp fun hSome =>
      h ⟨fragment, hFragment, hSome⟩
  rw [Rule.applyAll_of_ran hRan, hSame]
  cases flag with
  | false => rfl
  | true => exact absurd (hFlag.mp rfl) h

namespace Patcher

variable {α : Type} {patcher : Patcher} {columns : ColumnSet} {sql : Text} {lines : List Text}

theorem answer_patch_of_not_patches (hRules : patcher.rules = Rule.standard)
    (hSplit : split patcher.settings.separator sql = some lines)
    (hPatches : ¬ Patches columns lines) (sketchType : Text) (connection : Option Connection) :
    (patcher.patch sketchType (some columns) connection (.text sql : Source α)).answer =
      .text sql :=
  (patcher.outcome_patch sketchType (some columns) connection (.text sql)).answer_of_not_accepts
    fun _ h => hPatches ((proposes_standard_iff hRules hSplit).mp h.1).1

/-- Patching by the standard rules with the same columns at hand is idempotent, validated or not,
and in what a patch has given the rules find nothing more to change. -/
theorem patch_idempotent (patcher : Patcher) (hRules : patcher.rules = Rule.standard)
    (hSeparator : ∃ c ∈ patcher.settings.separator, isCardinalityChar c = false)
    (columns : ColumnSet) (sketchType : Text) (connection later : Option Connection) (sql : Text) :
    let first := patcher.patch sketchType (some columns) connection (.text sql : Source α)
    let second := patcher.patch sketchType first.held later first.answer
    second.answer = first.answer ∧
      ((∀ candidate, ¬ patcher.Accepts columns (.text sql : Source α) candidate) ∧
          first.answer = .text sql ∨
        ∃ candidate query, patcher.Accepts columns (.text sql : Source α) candidate ∧
          first.answer = .text candidate ∧
          Query.ofText? patcher.settings.separator candidate = .ok query ∧
          Rule.applyAll columns patcher.rules query = (query, .ok false)) := by
  intro first second
  have hFirst := patcher.outcome_patch sketchType (some columns) connection (.text sql : Source α)
  have hHeld : first.held = some columns := hFirst.held_of_warm
  have hne : patcher.settings.separator ≠ [] := by
    obtain ⟨c, hc, -⟩ := hSeparator
    exact List.ne_nil_of_mem hc
  obtain ⟨lines, hSplit⟩ := exists_split hne sql
  by_cases hAccepts : ∃ candidate, patcher.Accepts columns (.text sql : Source α) candidate
  · obtain ⟨candidate, hAccepts⟩ := hAccepts
    have hAnswer : first.answer = .text candidate := hFirst.answer_of_accepts hAccepts
    obtain ⟨-, rfl⟩ := (proposes_standard_iff hRules hSplit).mp hAccepts.1
    have hAgain := split_join_patchedLines hSplit hSeparator columns
    have hDone := not_patches_patchedLines columns lines
    constructor
    · change (patcher.patch sketchType first.held later first.answer).answer = first.answer
      rw [hHeld, hAnswer]
      exact answer_patch_of_not_patches hRules hAgain hDone sketchType later
    · refine .inr ⟨_, .ofLines (patchedLines columns lines), hAccepts, hAnswer, ?_, ?_⟩
      · rw [Query.ofText?, Query.readings?_eq_ok hAgain]
        rfl
      · rw [hRules]
        exact Rule.applyAll_of_not_patches hDone
  · have hNone := not_exists.mp hAccepts
    have hAnswer : first.answer = .text sql := hFirst.answer_of_not_accepts hNone
    refine ⟨?_, .inl ⟨hNone, hAnswer⟩⟩
    change (patcher.patch sketchType first.held later first.answer).answer = first.answer
    rw [hHeld, hAnswer]
    exact (patcher.outcome_patch sketchType (some columns) later
      (.text sql)).answer_of_not_accepts hNone

theorem patch_idempotent_sumOfSketch :
    ({} : Patcher).rules = Rule.standard ∧
      (∃ c ∈ ({} : Patcher).settings.separator, isCardinalityChar c = false) ∧
      let sql : Source Unit := .text (join "\n" sumOfSketch)
      let first := ({} : Patcher).patch "hll" (some ["s.b.v"]) none sql
      ∃ candidate, ({} : Patcher).Accepts ["s.b.v"] sql candidate ∧
        first.answer = .text candidate ∧
        (({} : Patcher).patch "hll" first.held none first.answer).answer = .text candidate := by
  have hSeparator : ∃ c ∈ ({} : Patcher).settings.separator, isCardinalityChar c = false :=
    ⟨'\n', by decide, by decide⟩
  refine ⟨rfl, hSeparator, ?_⟩
  intro sql first
  have hLines : split ({} : Patcher).settings.separator (join "\n" sumOfSketch) =
      some sumOfSketch :=
    (split_eq_some_iff (by decide)).mpr ⟨Cut.of_not_mem (by decide) (by decide), rfl⟩
  have hPatches : Patches ["s.b.v"] sumOfSketch :=
    patches_iff.mpr ⟨1, _, _, _, _, aggregatesSketch_sumOfSketch⟩
  have hProposes : ({} : Patcher).Proposes ["s.b.v"] sql _ :=
    (proposes_standard_iff rfl hLines).mpr ⟨hPatches, rfl⟩
  obtain ⟨hAgain, ⟨hNone, -⟩ | ⟨candidate, query, hAccepts, hAnswer, -⟩⟩ :=
    patch_idempotent (α := Unit) {} rfl hSeparator ["s.b.v"] "hll" none none (join "\n" sumOfSketch)
  · exact absurd ⟨hProposes, nofun⟩ (hNone _)
  · exact ⟨candidate, hAccepts, hAnswer, hAgain.trans hAnswer⟩

end Patcher

end QueryPatch
