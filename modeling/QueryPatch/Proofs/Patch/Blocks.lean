import QueryPatch.Proofs.Patch.Linewise
import QueryPatch.Proofs.Query.Blocks
import QueryPatch.Proofs.Query.Roundtrip
import QueryPatch.Proofs.Text.Unbordered

/-! # Patching block by block

A text made of two queries is patched like the two queries, provided that the aliases that both of
them declare are declared alike.
-/
set_option autoImplicit false

namespace QueryPatch.Patcher

open Text

variable {α : Type}

/-- The second query begins with a keyword line, so that the lines of the first one do not decide
how its lines are read. -/
theorem patch_append (patcher : Patcher) (hRules : patcher.rules = Rule.standard)
    (hValidates : patcher.settings.validates = false)
    (hSeparator : patcher.settings.separator ≠ [])
    (hUnbordered : Unbordered patcher.settings.separator) (columns : ColumnSet)
    (sketchType : Text) (connection : Option Connection) (first second : Text)
    (keyword : Keyword) (rest : List Text)
    (hKeyword : split patcher.settings.separator second = some (keyword.text :: rest))
    (hAlike : ∀ query query', Query.ofText? patcher.settings.separator first = .ok query →
      Query.ofText? patcher.settings.separator second = .ok query' →
      ∀ tableAlias declaring declaring', query.declaring? (some tableAlias) = some declaring →
        query'.declaring? (some tableAlias) = some declaring' → declaring.Alike declaring') :
    let answer (sql : Text) :=
      (patcher.patch sketchType (some columns) connection (.text sql : Source α)).answer
    ∃ patched patched', answer first = .text patched ∧ answer second = .text patched' ∧
      answer (first ++ patcher.settings.separator ++ second) =
        .text (patched ++ patcher.settings.separator ++ patched') := by
  obtain ⟨lines, hLines⟩ := exists_split hSeparator first
  have hBoth := split_append hUnbordered hLines hKeyword
  have hAppend := patchedLines_append columns
    (hAlike _ _ (Query.ofText?_eq_ok hLines) (Query.ofText?_eq_ok hKeyword))
  have hne : patchedLines columns lines ≠ [] := by
    rw [← List.length_pos_iff, length_patchedLines, List.length_pos_iff]
    exact ((split_eq_some_iff hSeparator).mp hLines).1.ne_nil
  have hne' : patchedLines columns (keyword.text :: rest) ≠ [] := by
    rw [← List.length_pos_iff, length_patchedLines]
    exact Nat.succ_pos _
  refine ⟨_, _, answer_patch_standard hRules hValidates hLines sketchType connection,
    answer_patch_standard hRules hValidates hKeyword sketchType connection, ?_⟩
  dsimp only
  rw [answer_patch_standard hRules hValidates hBoth, hAppend, join_append hne hne']

def sumsBlock : List Text :=
  ["select", "sum(\"t\".\"v\") as \"m\",", "sum(\"u\".\"v\") as \"k\"", "from",
    "\"S\".\"b\" as \"t\""]

def countsBlock : List Text :=
  ["select", "count(distinct \"t\".\"v\") as \"n\",", "sum(\"u\".\"v\") as \"k\"", "from",
    "\"s\".\"B\" as \"t\""]

theorem alike_of_declaring? {tableAlias : Text} {declaring declaring' : Fragment}
    (h : (Query.ofLines sumsBlock).declaring? (some tableAlias) = some declaring)
    (h' : (Query.ofLines countsBlock).declaring? (some tableAlias) = some declaring') :
    declaring.Alike declaring' := by
  have hAliases : (Query.ofLines sumsBlock).aliases = [("t".toList, 4), ("u".toList, 2)] := rfl
  by_cases hFirst : tableAlias = "t".toList
  · obtain rfl := hFirst
    cases h
    cases h'
    exact .table rfl rfl (by decide) (by decide)
  by_cases hSecond : tableAlias = "u".toList
  · obtain rfl := hSecond
    cases h
    cases h'
    exact .aggregation rfl rfl
  · have hNone : Keyed.get? (Query.ofLines sumsBlock).aliases tableAlias = none := by
      rw [hAliases, Keyed.get?, List.lookup_cons, beq_false_of_ne hFirst, List.lookup_cons,
        beq_false_of_ne hSecond, List.lookup_nil]
    simp [Query.declaring?, hNone] at h

/-- The alias `t` names one table in two spellings, and `u` names none. -/
theorem patch_append_sumsBlock_countsBlock :
    ({} : Patcher).rules = Rule.standard ∧ ({} : Patcher).settings.validates = false ∧
      Unbordered ({} : Patcher).settings.separator ∧
      let answer (sql : Text) :=
        (({} : Patcher).patch "hll" (some ["s.b.v"]) none (.text sql : Source Unit)).answer
      ∃ patched patched', answer (join "\n" sumsBlock) = .text patched ∧
        answer (join "\n" countsBlock) = .text patched' ∧
        answer (join "\n" sumsBlock ++ "\n".toList ++ join "\n" countsBlock) =
          .text (patched ++ "\n".toList ++ patched') := by
  have hUnbordered : Unbordered ({} : Patcher).settings.separator := unbordered_singleton '\n'
  have hSplit : split "\n" (join "\n" sumsBlock) = some sumsBlock :=
    (split_eq_some_iff (by decide)).mpr ⟨Cut.of_not_mem (by decide) (by decide), rfl⟩
  have hSplit' : split "\n" (join "\n" countsBlock) = some countsBlock :=
    (split_eq_some_iff (by decide)).mpr ⟨Cut.of_not_mem (by decide) (by decide), rfl⟩
  refine ⟨rfl, rfl, hUnbordered, ?_⟩
  refine patch_append (α := Unit) {} rfl rfl (by decide) hUnbordered ["s.b.v"] "hll" none _ _
    .select _ hSplit' ?_
  intro query query' hQuery hQuery' tableAlias declaring declaring' h h'
  obtain rfl := Except.ok.inj ((Query.ofText?_eq_ok hSplit).symm.trans hQuery)
  obtain rfl := Except.ok.inj ((Query.ofText?_eq_ok hSplit').symm.trans hQuery')
  exact alike_of_declaring? h h'

end QueryPatch.Patcher
