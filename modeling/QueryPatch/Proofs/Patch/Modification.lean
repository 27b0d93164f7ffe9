import QueryPatch.Proofs.Patch.Linewise
import QueryPatch.Proofs.Text.Strip
import Mathlib.Algebra.GroupWithZero.Nat
import Mathlib.Algebra.Order.BigOperators.Group.List
import Mathlib.Algebra.Order.Group.Nat

/-! # Modified queries

Each line that the standard rules replace gets more underscores than it had. So whatever the
separator is, a query in which a line was replaced is not written as it was read.
-/
set_option autoImplicit false

namespace QueryPatch

open Text

namespace Text

theorem count_strip {c : Char} (h : isBlank c = false) (text : Text) :
    (strip text).count c = text.count c := by
  have hNone {blanks : Text} (hBlanks : ∀ d ∈ blanks, isBlank d = true) : blanks.count c = 0 := by
    rw [List.count_eq_zero]
    intro hMem
    cases h.symm.trans (hBlanks c hMem)
  have hFront : (text.takeWhile isBlank).count c = 0 := hNone fun _ => List.mem_takeWhile_imp
  obtain ⟨gap, hRest, hGap⟩ := exists_blank_behind (text.dropWhile isBlank)
  have hCount := congrArg (List.count c)
    (List.takeWhile_append_dropWhile (p := isBlank) (l := text))
  rw [List.count_append, hFront, hRest, List.count_append, hNone hGap] at hCount
  rw [strip, ← hCount]
  omega

theorem count_join (c : Char) (separator : Text) (parts : List Text) :
    (join separator parts).count c =
      (parts.map (List.count c)).sum + (parts.length - 1) * separator.count c := by
  induction parts with
  | nil => simp [join]
  | cons part rest ih =>
    cases rest with
    | nil => simp
    | cons next rest =>
      have hSum : ((part :: next :: rest).map (List.count c)).sum =
          part.count c + ((next :: rest).map (List.count c)).sum := List.sum_cons
      rw [join_cons (List.cons_ne_nil next rest), List.count_append, List.count_append, ih, hSum]
      simp only [List.length_cons, Nat.add_sub_cancel, Nat.succ_mul]
      omega

/-- Parts that get no fewer of a code point, and one that gets more, are not joined to the same. -/
theorem count_join_lt {β : Type} {items : List β} {old new : β → Text} {c : Char}
    (separator : Text) (hLe : ∀ item ∈ items, (old item).count c ≤ (new item).count c)
    (hLt : ∃ item ∈ items, (old item).count c < (new item).count c) :
    (join separator (items.map old)).count c < (join separator (items.map new)).count c := by
  rw [count_join, count_join, List.map_map, List.map_map, List.length_map, List.length_map]
  exact Nat.add_lt_add_right (List.sum_lt_sum _ _ hLe hLt) _

end Text

section underscores

variable {lines : List Text} {columns : ColumnSet} {line : Nat}
  {tableAlias column outputName : Text} {hasNext : Bool}

theorem count_inQuotes (word : Text) : (inQuotes word).count '_' = word.count '_' := by
  simp [inQuotes]

theorem count_comma (hasNext : Bool) : (comma hasNext).count '_' = 0 := by cases hasNext <;> rfl

theorem count_cardinalityItem (tableAlias column outputName : Text) (hasNext : Bool) :
    (cardinalityItem tableAlias column outputName hasNext).count '_' =
      3 + (tableAlias.count '_' + column.count '_' + outputName.count '_') := by
  have hOpening : "hll_cardinality(hll_union_agg(".toList.count '_' = 3 := by decide
  have hAs : ")) as ".toList.count '_' = 0 := by decide
  have hMark : ('.' :: inQuotes column).count '_' = column.count '_' := by
    rw [List.count_cons_of_ne (by decide), count_inQuotes]
  unfold cardinalityItem
  simp only [List.count_append, hOpening, hAs, hMark, count_inQuotes, count_comma]
  omega

theorem count_cardinalityLine (tableAlias column outputName : Text) (hasNext : Bool) :
    (cardinalityLine tableAlias column outputName hasNext).count '_' =
      3 + (tableAlias.count '_' + column.count '_' + outputName.count '_') := by
  have hBlank : isBlank '_' = false := by decide
  rw [← count_cardinalityItem tableAlias column outputName hasNext, ← strip_cardinalityLine,
    count_strip hBlank]

/-- The words of the line stay, and the call that is written around them has underscores. -/
theorem AggregatesSketch.count_lt {text : Text}
    (h : AggregatesSketch lines columns line tableAlias column outputName hasNext)
    (hText : lines[line]? = some text) :
    text.count '_' < (cardinalityLine tableAlias column outputName hasNext).count '_' := by
  obtain ⟨text', opening, hText', hLine, hOpening⟩ := h.aggregation
  obtain rfl : text = text' := Option.some.inj (hText.symm.trans hText')
  obtain ⟨mark, -, hLayout⟩ := hLine.layout
  -- the mark between the names is the only place for an underscore that gets lost
  have hStripped : (strip opening).count '_' = 0 := by
    rcases hOpening with hOpening | hOpening <;> rw [hOpening] <;> decide
  rw [count_strip (by decide)] at hStripped
  have hAs : ") as ".toList.count '_' = 0 := by decide
  have hMark : (mark :: inQuotes column).count '_' ≤ column.count '_' + 1 := by
    rw [List.count_cons, count_inQuotes]
    split <;> omega
  rw [count_cardinalityLine, ← count_strip (by decide) text, hLayout]
  simp only [List.count_append, hStripped, hAs, count_inQuotes, count_comma]
  omega

/-- Where a line is replaced, the lines do not join to the text that they were cut from. -/
theorem Patches.join_patchedLines_ne (h : Patches columns lines) (separator : Text) :
    join separator (patchedLines columns lines) ≠ join separator lines := by
  have hMore : ∀ fragment ∈ (Query.ofLines lines).fragments, ∀ new,
      (Query.ofLines lines).cardinality? columns fragment = some new →
      fragment.text.count '_' < new.count '_' := by
    intro fragment hFragment new hNew
    obtain ⟨reading, hReading, rfl⟩ := List.mem_map.mp hFragment
    obtain ⟨line, hLine⟩ := List.mem_iff_getElem?.mp hReading
    obtain ⟨_, _, _, _, hSketch, rfl⟩ := (cardinality?_eq_some_iff hLine).mp hNew
    obtain ⟨text, hText, hRead⟩ := read_of_getElem? hLine
    rw [hRead.text_eq]
    exact hSketch.count_lt hText
  have hCount : (join separator ((Query.ofLines lines).fragments.map Fragment.text)).count '_' <
      (join separator (patchedLines columns lines)).count '_' := by
    apply count_join_lt
    · intro fragment hFragment
      cases hNew : (Query.ofLines lines).cardinality? columns fragment with
      | none => exact le_rfl
      | some new => exact (hMore fragment hFragment new hNew).le
    · obtain ⟨fragment, hFragment, hSome⟩ := h
      obtain ⟨new, hNew⟩ := Option.isSome_iff_exists.mp hSome
      refine ⟨fragment, hFragment, ?_⟩
      rw [hNew]
      exact hMore fragment hFragment new hNew
  rw [Query.map_text_ofLines] at hCount
  intro hSame
  rw [hSame] at hCount
  exact Nat.lt_irrefl _ hCount

end underscores

section standard

variable {lines : List Text} {columns : ColumnSet} {separator sql : Text}

def Query.edited (columns : ColumnSet) (lines : List Text) : Query :=
  (Query.ofLines lines).replaced ((Query.ofLines lines).cardinality? columns)

theorem Query.rendered_edited (columns : ColumnSet) (lines : List Text) (separator : Text) :
    (Query.edited columns lines).rendered separator =
      join separator (patchedLines columns lines) := by
  rw [Query.rendered, Query.edited, Query.map_rendered_replaced]

theorem Query.exists_replacement_iff :
    (∃ fragment ∈ (Query.edited columns lines).fragments, fragment.replacement ≠ none) ↔
      Patches columns lines := by
  constructor
  · rintro ⟨fragment, hFragment, hSome⟩
    obtain ⟨original, hOriginal, rfl⟩ := List.mem_map.mp hFragment
    exact ⟨original, hOriginal, Option.isSome_iff_ne_none.mpr hSome⟩
  · rintro ⟨original, hOriginal, hSome⟩
    exact ⟨_, List.mem_map_of_mem hOriginal, Option.isSome_iff_ne_none.mp hSome⟩

theorem Rule.applyAll_standard (columns : ColumnSet) (lines : List Text) :
    ∃ flag, Rule.applyAll columns Rule.standard (Query.ofLines lines) =
        (Query.edited columns lines, .ok flag) ∧
      (flag = true ↔ Patches columns lines) := by
  obtain ⟨flag, hFlag, hRan⟩ := Rule.ran_standard columns lines
  refine ⟨[flag].contains true, Rule.applyAll_of_ran hRan, ?_⟩
  rw [← hFlag, List.contains_iff_mem, List.mem_singleton]
  exact eq_comm

theorem Patches.rendered_ne_iff (hSplit : split separator sql = some lines) :
    (Query.edited columns lines).rendered separator ≠ sql ↔ Patches columns lines := by
  have hJoin := ((split_eq_some_iff (ne_nil_of_split hSplit)).mp hSplit).2
  rw [Query.rendered_edited]
  constructor
  · intro hOther
    by_contra hNone
    rw [patchedLines_eq_self hNone] at hOther
    exact hOther hJoin
  · intro hPatches
    rw [← hJoin]
    exact hPatches.join_patchedLines_ne separator

end standard

namespace Patcher

/-- The rules replace a line of the text, and what comes of it is accepted. -/
def rewrites (patcher : Patcher) (columns : ColumnSet) (sql : Text) : Bool :=
  match Query.ofText? patcher.settings.separator sql with
  | .error _ => false
  | .ok query =>
    let edited := (Rule.applyAll columns patcher.rules query).1
    edited.fragments.any (·.replacement.isSome) &&
      (!patcher.settings.validates ||
        patcher.validator (edited.rendered patcher.settings.separator) = .accepted)

variable {α : Type} {patcher : Patcher} {columns : ColumnSet} {sql : Text}

theorem Proposes.ne_of_standard (hRules : patcher.rules = Rule.standard) {candidate : Text}
    (h : patcher.Proposes columns (.text sql : Source α) candidate) : candidate ≠ sql := by
  obtain ⟨readings, -, -, hReadings, -⟩ := id h
  cases hSplit : split patcher.settings.separator sql with
  | none =>
    rw [Source.readings?, Query.readings?, hSplit] at hReadings
    cases hReadings
  | some lines =>
    obtain ⟨hPatches, rfl⟩ := (proposes_standard_iff hRules hSplit).mp h
    rw [← Query.rendered_edited]
    exact (Patches.rendered_ne_iff hSplit).mpr hPatches

theorem rewrites_iff (hRules : patcher.rules = Rule.standard)
    (hSeparator : patcher.settings.separator ≠ []) :
    patcher.rewrites columns sql = true ↔
      ∃ candidate, patcher.Accepts columns (.text sql : Source α) candidate := by
  obtain ⟨lines, hSplit⟩ := exists_split hSeparator sql
  obtain ⟨flag, hApply, -⟩ := Rule.applyAll_standard columns lines
  have hOfText : Query.ofText? patcher.settings.separator sql = .ok (Query.ofLines lines) := by
    rw [Query.ofText?, Query.readings?_eq_ok hSplit]
    rfl
  have hAny : (Query.edited columns lines).fragments.any (·.replacement.isSome) = true ↔
      Patches columns lines := by
    rw [← Query.exists_replacement_iff, List.any_eq_true]
    simp only [Option.isSome_iff_ne_none]
  rw [rewrites, hOfText]
  dsimp only
  rw [hRules, hApply, Bool.and_eq_true, hAny, Bool.or_eq_true, Bool.not_eq_true',
    decide_eq_true_iff]
  constructor
  · rintro ⟨hPatches, hVerdict⟩
    refine ⟨_, (proposes_standard_iff hRules hSplit).mpr ⟨hPatches, Query.rendered_edited ..⟩,
      fun hValidates => hVerdict.resolve_left ?_⟩
    rw [hValidates]
    nofun
  · rintro ⟨candidate, hProposes, hVerdict⟩
    obtain ⟨hPatches, rfl⟩ := (proposes_standard_iff hRules hSplit).mp hProposes
    refine ⟨hPatches, ?_⟩
    rw [Query.rendered_edited]
    cases hValidates : patcher.settings.validates with
    | false => exact .inl rfl
    | true => exact .inr (hVerdict hValidates)

theorem answer_patch_ne_iff (hRules : patcher.rules = Rule.standard)
    (hSeparator : patcher.settings.separator ≠ []) (sketchType : Text) (held : Option ColumnSet)
    (connection : Option Connection) :
    (patcher.patch sketchType held connection (.text sql : Source α)).answer ≠ .text sql ↔
      patcher.rewrites (Lookup.of sketchType held connection).columns sql = true := by
  have hOutcome := patcher.outcome_patch sketchType held connection (.text sql : Source α)
  rw [rewrites_iff (α := α) hRules hSeparator]
  constructor
  · intro hOther
    by_contra hNone
    exact hOther (hOutcome.answer_of_not_accepts (not_exists.mp hNone))
  · rintro ⟨candidate, hAccepts⟩
    rw [hOutcome.answer_of_accepts hAccepts]
    exact fun hSame => hAccepts.1.ne_of_standard hRules (Source.text.inj hSame)

end Patcher

end QueryPatch
