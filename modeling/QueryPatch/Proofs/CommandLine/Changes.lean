import QueryPatch.Proofs.CommandLine.AllOrNothing
import QueryPatch.Proofs.Patch.Modification

/-! # What counts as changed

The rules report a change, the patcher hands back another text, and a run counts the texts that
differ. All three are the same.
-/
set_option autoImplicit false

namespace QueryPatch.CommandLine

open Text

theorem entry_ne_iff {patcher : Patcher} (hRules : patcher.rules = Rule.standard)
    (hSeparator : patcher.settings.separator ≠ []) (columns : ColumnSet) (statement : Statement) :
    entry patcher columns statement ≠ statement.text ↔
      patcher.rewrites columns statement.text = true := by
  have hChanged : (patcher.patch patcher.settings.sketchType (some columns) none
        (.text statement.text : Source Empty)).answer ≠ .text statement.text ↔
      patcher.rewrites columns statement.text = true :=
    Patcher.answer_patch_ne_iff hRules hSeparator patcher.settings.sketchType (some columns) none
  rw [← hChanged]
  have hOutcome := patcher.outcome_patch patcher.settings.sketchType (some columns) none
    (.text statement.text : Source Empty)
  by_cases hSome : ∃ candidate,
      patcher.Accepts columns (.text statement.text : Source Empty) candidate
  · obtain ⟨candidate, hAccepts⟩ := hSome
    rw [entry, Result.text, hOutcome.answer_of_accepts hAccepts]
    simp
  · rw [entry, Result.text, hOutcome.answer_of_not_accepts (not_exists.mp hSome)]
    simp

/-- The changed entries are those of the queries that are rewritten with the columns that are known
by then. -/
theorem changes_entries {patcher : Patcher} (hRules : patcher.rules = Rule.standard)
    (hSeparator : patcher.settings.separator ≠ []) (held : Option ColumnSet)
    (connection : Nat → Option Connection) (statements : List Statement) :
    changes (entries patcher held connection statements) =
      statements.zipIdx.countP fun pair => patcher.rewrites
        (columnsAt patcher.settings.sketchType held connection pair.2) pair.1.text := by
  rw [changes, entries, List.countP_map]
  refine List.countP_congr fun pair _ => ?_
  rw [Function.comp_apply, decide_eq_true_iff]
  exact entry_ne_iff hRules hSeparator _ pair.1

/-- The standard rules report a change if and only if they replace a line of the query, and then,
whatever the separator is, the query is not written as it was read. So patching with columns at hand
gives another text if and only if a line is replaced and the candidate is not rejected, and the
count of a run is that of the queries for which this is so. -/
theorem changes_counted {α : Type} :
    (∀ (separator sql : Text) (columns : ColumnSet), separator ≠ [] →
      ∃ query edited flag, Query.ofText? separator sql = .ok query ∧
        (∀ fragment ∈ query.fragments, fragment.replacement = none) ∧
        Rule.applyAll columns Rule.standard query = (edited, .ok flag) ∧
        (flag = true ↔ ∃ fragment ∈ edited.fragments, fragment.replacement ≠ none) ∧
        (flag = true ↔ edited.rendered separator ≠ sql)) ∧
    (∀ (patcher : Patcher) (columns : ColumnSet) (sketchType : Text)
        (connection : Option Connection) (sql : Text),
      patcher.rules = Rule.standard → patcher.settings.separator ≠ [] →
      ((patcher.patch sketchType (some columns) connection (.text sql : Source α)).answer ≠
          .text sql ↔ patcher.rewrites columns sql = true)) ∧
    ∀ (arguments : List Text) (surroundings : Surroundings) (invocation : Invocation)
        (content : Text) (access : Access) (path : Text),
      Arguments.ofList arguments = .invocation invocation →
      invocation.Ready surroundings content access path →
      surroundings.storage.Takes path
        (output (invocation.entries surroundings access content)) →
      access.closing = none →
      let patcher := invocation.patcher surroundings
      (run arguments surroundings).stderr = access.stderr ++ report
        ((Capture.statements content).zipIdx.countP fun pair => patcher.rewrites
          (columnsAt patcher.settings.sketchType access.held access.connection? pair.2)
          pair.1.text)
        (Capture.statements content).length path := by
  refine ⟨fun separator sql columns hSeparator => ?_,
    fun patcher columns sketchType connection sql hRules hSeparator =>
      Patcher.answer_patch_ne_iff hRules hSeparator sketchType (some columns) connection,
    fun arguments surroundings invocation content access path hArguments hReady hTakes hClosing =>
      ?_⟩
  · obtain ⟨lines, hSplit⟩ := exists_split hSeparator sql
    obtain ⟨flag, hApply, hFlag⟩ := Rule.applyAll_standard columns lines
    refine ⟨.ofLines lines, .edited columns lines, flag, ?_,
      fun fragment => Query.replacement_eq_none_of_mem, hApply,
      hFlag.trans Query.exists_replacement_iff.symm,
      hFlag.trans (Patches.rendered_ne_iff hSplit).symm⟩
    rw [Query.ofText?, Query.readings?_eq_ok hSplit]
    rfl
  · rw [run_of_invocation hArguments,
      ((ends_invoke hReady).delivers hTakes hClosing).reported, Invocation.entries,
      changes_entries rfl (List.cons_ne_nil _ _), entries, List.length_map, List.length_zipIdx]

theorem changes_counted_sumOfSketch :
    Arguments.ofList ["in.sql".toList, "--hll-column=s.b.v".toList] =
        .invocation (sumInvocation false) ∧
      (sumInvocation false).Ready sumSurroundings (join "\n" Patcher.sumOfSketch)
        { held := some ["s.b.v"] } "-" ∧
      (∃ query edited, Query.ofText? "\n" (join "\n" Patcher.sumOfSketch) = .ok query ∧
        Rule.applyAll ["s.b.v"] Rule.standard query = (edited, .ok true) ∧
        edited.rendered "\n" ≠ join "\n" Patcher.sumOfSketch) ∧
      ((sumInvocation false).patcher sumSurroundings).rewrites ["s.b.v"]
        (join "\n" Patcher.sumOfSketch) = true ∧
      (run ["in.sql".toList, "--hll-column=s.b.v".toList] sumSurroundings).stderr =
        "\nRewritten: 1/1 queries\n" := by
  obtain ⟨hRules, hPatch, hRun⟩ := changes_counted (α := Empty)
  have hArguments : Arguments.ofList ["in.sql".toList, "--hll-column=s.b.v".toList] =
      .invocation (sumInvocation false) := by
    decide
  have hSplit : split "\n" (join "\n" Patcher.sumOfSketch) = some Patcher.sumOfSketch :=
    (split_eq_some_iff (by decide)).mpr ⟨Cut.of_not_mem (by decide) (by decide), rfl⟩
  have hRewrites : ((sumInvocation false).patcher sumSurroundings).rewrites ["s.b.v"]
      (join "\n" Patcher.sumOfSketch) = true := by
    refine (hPatch _ ["s.b.v"] "hll" none _ rfl (List.cons_ne_nil _ _)).mp ?_
    rw [Patcher.answer_patch_standard rfl rfl hSplit]
    decide
  refine ⟨hArguments, ready_sumInvocation false, ?_, hRewrites, ?_⟩
  · obtain ⟨query, edited, flag, hText, -, hApply, hReplaced, hOther⟩ :=
      hRules "\n" (join "\n" Patcher.sumOfSketch) ["s.b.v"] (by decide)
    obtain rfl : flag = true := by
      have hText' : Query.ofText? ((sumInvocation false).patcher sumSurroundings).settings.separator
          (join "\n" Patcher.sumOfSketch) = .ok query := hText
      have hApply' : Rule.applyAll ["s.b.v"] ((sumInvocation false).patcher sumSurroundings).rules
          query = (edited, .ok flag) := hApply
      rw [Patcher.rewrites, hText'] at hRewrites
      dsimp only at hRewrites
      rw [hApply', Bool.and_eq_true, List.any_eq_true] at hRewrites
      obtain ⟨⟨fragment, hFragment, hSome⟩, -⟩ := hRewrites
      exact hReplaced.mpr ⟨fragment, hFragment, Option.isSome_iff_ne_none.mp hSome⟩
    exact ⟨query, edited, hText, hApply, hOther.mp rfl⟩
  · refine (hRun _ _ _ _ _ _ hArguments (ready_sumInvocation false) (.inl rfl) rfl).trans ?_
    have hCount : [((⟨1, join "\n" Patcher.sumOfSketch⟩ : Statement), 0)].countP (fun pair =>
        ((sumInvocation false).patcher sumSurroundings).rewrites ["s.b.v"] pair.1.text) = 1 :=
      List.countP_cons_of_pos hRewrites
    rw [statements_sumOfSketch]
    exact congrArg (fun changed => report changed 1 "-") hCount

end QueryPatch.CommandLine
