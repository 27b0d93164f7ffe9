import QueryPatch.Proofs.Catalog.Population
import QueryPatch.Proofs.Patch.Linewise
import QueryPatch.Proofs.Text.Lowercase

/-! # Sets of the same columns

Patching asks of a set of columns only which columns are in it. Lists of names that differ in order,
in repetitions, and in the case of ASCII letters, name the same columns.
-/
set_option autoImplicit false

namespace QueryPatch

open Text

/-- Each name of one list is in the other, up to the case of ASCII letters. -/
def SameNames (first second : List Text) : Prop :=
  ∀ key, key ∈ first.map (·.map Char.toLower) ↔ key ∈ second.map (·.map Char.toLower)

namespace ColumnSet

def Same (first second : ColumnSet) : Prop := ∀ key, key ∈ first ↔ key ∈ second

theorem same_of_names {first second : ColumnSet} {names others : List Text}
    (hFirst : first.OfNames names) (hSecond : second.OfNames others)
    (h : SameNames names others) : Same first second := by
  have hKey (names : List Text) (key : Text) : (∃ name ∈ names, lowercase name = key) ↔
      ∃ small ∈ names.map (·.map Char.toLower), lowercase small = key := by
    simp only [List.mem_map, exists_exists_and_eq_and, lowercase_map_toLower]
  intro key
  rw [hFirst key, hSecond key, hKey names, hKey others]
  exact exists_congr fun small => and_congr_left fun _ => h small

namespace Same

variable {first second : ColumnSet}

theorem contains_eq (h : Same first second) (key : Text) :
    first.contains key = second.contains key := by
  rw [Bool.eq_iff_iff, List.contains_iff_mem, List.contains_iff_mem]
  exact h key

theorem overSketch_eq (h : Same first second) (query : Query) (fragment : Fragment) :
    query.overSketch first fragment = query.overSketch second fragment := by
  rw [Query.overSketch, Query.overSketch]
  split
  · rw [h.contains_eq]
  · rfl

theorem cardinality?_eq (h : Same first second) (query : Query) :
    query.cardinality? first = query.cardinality? second := by
  funext fragment
  rw [Query.cardinality?, Query.cardinality?, h.overSketch_eq]

theorem patchedLines_eq (h : Same first second) (lines : List Text) :
    patchedLines first lines = patchedLines second lines := by
  rw [patchedLines, patchedLines, h.cardinality?_eq]

theorem patches_iff (h : Same first second) (lines : List Text) :
    Patches first lines ↔ Patches second lines := by
  rw [Patches, Patches, h.cardinality?_eq]

theorem accepts_iff {α : Type} {patcher : Patcher} (hRules : patcher.rules = Rule.standard)
    (hSeparator : patcher.settings.separator ≠ []) (h : Same first second) (sql candidate : Text) :
    patcher.Accepts first (.text sql : Source α) candidate ↔
      patcher.Accepts second (.text sql : Source α) candidate := by
  obtain ⟨lines, hSplit⟩ := exists_split hSeparator sql
  rw [Patcher.Accepts, Patcher.Accepts, Patcher.proposes_standard_iff hRules hSplit,
    Patcher.proposes_standard_iff hRules hSplit, h.patches_iff, h.patchedLines_eq]

end Same

end ColumnSet

end QueryPatch
