import QueryPatch.Proofs.Patch.Linewise
import QueryPatch.Proofs.Query.Reordering
import QueryPatch.Proofs.Text.Occurrence
import Mathlib.Data.List.Infix

/-! # Patching lines in another order

Patching commutes with a change of order among lines that stand between two keyword lines.
-/
set_option autoImplicit false

namespace QueryPatch.Patcher

open Text

variable {α : Type} {size : Nat} {before after : List Text} {run : Fin size → Text} {sql : Text}

/-- The lines of a text in another order are again the lines of a text. -/
theorem split_join_reordered
    (hSplit : split "\n" sql = some (before ++ List.ofFn run ++ after))
    (order : Equiv.Perm (Fin size)) :
    split "\n" (join "\n" (before ++ List.ofFn (run ∘ order) ++ after)) =
      some (before ++ List.ofFn (run ∘ order) ++ after) := by
  have hCut := ((split_eq_some_iff (by decide)).mp hSplit).1
  have hPerm : (before ++ List.ofFn (run ∘ order) ++ after).Perm
      (before ++ List.ofFn run ++ after) :=
    ((order.ofFn_comp_perm run).append_left before).append_right after
  have hne : before ++ List.ofFn (run ∘ order) ++ after ≠ [] := fun hNil =>
    hCut.ne_nil (List.perm_nil.mp (hNil ▸ hPerm.symm))
  refine (split_eq_some_iff (by decide)).mpr ⟨Cut.of_not_mem hne fun line hLine hNewline => ?_, rfl⟩
  exact hCut.not_infix_of_mem (by decide) (hPerm.mem_iff.mp hLine)
    ((List.singleton_infix_iff _ _).mpr hNewline)

/-- With columns at hand, no validation and one line to each text line, patching by the standard
rules and changing the order of lines that are no keywords come to the same in either order,
provided that no two of the lines are tables with one alias. The lines before and after are patched
as if the order had stayed. -/
theorem patch_reordered (patcher : Patcher) (hRules : patcher.rules = Rule.standard)
    (hValidates : patcher.settings.validates = false)
    (hSeparator : patcher.settings.separator = "\n".toList) (columns : ColumnSet)
    (sketchType : Text) (connection : Option Connection)
    (hSplit : split "\n" sql = some (before ++ List.ofFn run ++ after))
    (hPlain : ∀ i, ∀ keyword : Keyword, run i ≠ keyword.text) (hTables : TablesApart before run)
    (order : Equiv.Perm (Fin size)) :
    let answer (sql : Text) :=
      (patcher.patch sketchType (some columns) connection (.text sql : Source α)).answer
    let reordered := join "\n" (before ++ List.ofFn (run ∘ order) ++ after)
    split "\n" reordered = some (before ++ List.ofFn (run ∘ order) ++ after) ∧
      ∃ patched patched' front middle back,
        answer sql = .text patched ∧
        split "\n" patched = some (front ++ List.ofFn middle ++ back) ∧
        answer reordered = .text patched' ∧
        split "\n" patched' = some (front ++ List.ofFn (middle ∘ order) ++ back) ∧
        front.length = before.length ∧ back.length = after.length := by
  have hSplit' := split_join_reordered hSplit order
  obtain ⟨front, middle, back, hPatched, hPatched', hFront, hBack⟩ :=
    patchedLines_reordered columns after hPlain hTables order
  have hForeign : ∃ c ∈ "\n".toList, isCardinalityChar c = false := ⟨'\n', by decide, by decide⟩
  have hAnswer {sql : Text} {lines : List Text} (h : split "\n" sql = some lines) :
      (patcher.patch sketchType (some columns) connection (.text sql : Source α)).answer =
        .text (join "\n" (patchedLines columns lines)) := by
    rw [← hSeparator] at h ⊢
    exact answer_patch_standard hRules hValidates h sketchType connection
  refine ⟨hSplit', _, _, front, middle, back, hAnswer hSplit, ?_, hAnswer hSplit', ?_, hFront,
    hBack⟩
  · rw [← hPatched]
    exact split_join_patchedLines hSplit hForeign columns
  · rw [← hPatched']
    exact split_join_patchedLines hSplit' hForeign columns

def sumHead : List Text := ["select", "sum(\"t\".\"v\") as \"m\"", "from"]

def twoTables : Fin 2 → Text
  | 0 => "\"s\".\"b\" as \"t\","
  | 1 => "\"s\".\"c\" as \"u\""

theorem tablesApart_twoTables : TablesApart sumHead twoTables := by
  have hAlias : ∀ i schema name tableAlias, TableLine (strip (twoTables i)) schema name tableAlias →
      tableAlias = ["t".toList, "u".toList].get i := by
    intro i schema name tableAlias hLine
    have hShape := Shape.table?_eq_some_iff.mpr ⟨_, _, _, hLine, rfl⟩
    match i with
    | 0 | 1 =>
      cases hShape
      rfl
  rintro - i j schema schema' name name' tableAlias hLine hLine'
  have hSame := (hAlias _ _ _ _ hLine).symm.trans (hAlias _ _ _ _ hLine')
  clear hLine hLine'
  decide +revert

def patchedHead : List Text := ["select", cardinalityLine "t" "v" "m" false, "from"]

/-- The tables change places, and the sum is replaced all the same. -/
theorem patch_reordered_twoTables :
    ({} : Patcher).rules = Rule.standard ∧ ({} : Patcher).settings.validates = false ∧
      ({} : Patcher).settings.separator = "\n".toList ∧
      (∀ i, ∀ keyword : Keyword, twoTables i ≠ keyword.text) ∧ TablesApart sumHead twoTables ∧
      ∃ patched, (({} : Patcher).patch "hll" (some ["s.b.v"]) none
          (.text (join "\n" (sumHead ++ [twoTables 1, twoTables 0])) : Source Unit)).answer =
            .text patched ∧
        split "\n" patched = some (patchedHead ++ [twoTables 1, twoTables 0]) := by
  have hPlain : ∀ i, ∀ keyword : Keyword, twoTables i ≠ keyword.text := by
    intro i keyword
    match i with
    | 0 | 1 => cases keyword <;> decide
  have hSplit : split "\n" (join "\n" (sumHead ++ List.ofFn twoTables ++ [])) =
      some (sumHead ++ List.ofFn twoTables ++ []) :=
    (split_eq_some_iff (by decide)).mpr ⟨Cut.of_not_mem (by decide) (by decide), rfl⟩
  have hHead : split "\n" (join "\n" (patchedHead ++ List.ofFn twoTables)) =
      some (patchedHead ++ List.ofFn twoTables) :=
    (split_eq_some_iff (by decide)).mpr ⟨Cut.of_not_mem (by decide) (by decide), rfl⟩
  refine ⟨rfl, rfl, rfl, hPlain, tablesApart_twoTables, ?_⟩
  obtain ⟨-, patched, patched', front, middle, back, hAnswer, hPatched, hAnswer', hPatched', hFront,
    hBack⟩ := patch_reordered (α := Unit) {} rfl rfl rfl ["s.b.v"] "hll" none hSplit hPlain
      tablesApart_twoTables (Equiv.swap 0 1)
  obtain rfl := List.length_eq_zero_iff.mp hBack
  rw [List.append_nil] at hPatched hPatched'
  dsimp only at hAnswer
  rw [answer_patch_standard rfl rfl hSplit] at hAnswer
  have hLines : patchedLines ["s.b.v"] (sumHead ++ List.ofFn twoTables ++ []) =
      patchedHead ++ List.ofFn twoTables := rfl
  rw [hLines] at hAnswer
  obtain rfl := Source.text.inj hAnswer
  obtain ⟨rfl, hMiddle⟩ := List.append_inj (Option.some.inj (hPatched.symm.trans hHead)) hFront
  obtain rfl := List.ofFn_injective hMiddle
  exact ⟨patched', hAnswer', hPatched'⟩

end QueryPatch.Patcher
