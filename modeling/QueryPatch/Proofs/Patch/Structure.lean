import QueryPatch.Proofs.Patch.Linewise
import QueryPatch.Proofs.Query.Reread
import QueryPatch.Proofs.Query.Roundtrip

/-! # What patching keeps

A patched text is read as the lines of the text it was made from, one for one. Only the lines that
were replaced have another role, and each alias is declared on the line on which it was before.
-/
set_option autoImplicit false

namespace QueryPatch

open Text

section fragments

variable {columns : ColumnSet} {lines : List Text} {line : Nat} {old edited again : Fragment}

theorem getElem?_replaced {line? : Fragment → Option Text} {query : Query}
    (h : query.fragments[line]? = some old) :
    (query.replaced line?).fragments[line]? = some { old with replacement := line? old } := by
  rw [Query.replaced, List.getElem?_map, h]
  rfl

/-- A fragment of the patched lines beside the fragment of the same line before. -/
theorem fragment_patchedLines_cases (hOld : (Query.ofLines lines).fragments[line]? = some old)
    (hAgain : (Query.ofLines (patchedLines columns lines)).fragments[line]? = some again) :
    (Query.ofLines lines).cardinality? columns old = none ∧ again = old ∨
      ∃ text, (Query.ofLines lines).cardinality? columns old = some text ∧
        again = { text } := by
  rw [Query.ofLines, Query.ofReadings, List.getElem?_map, Option.map_eq_some_iff] at hOld hAgain
  obtain ⟨reading, hReading, rfl⟩ := hOld
  obtain ⟨reading', hReading', rfl⟩ := hAgain
  rcases getElem?_readLines_patchedLines_cases lines columns line with
    ⟨_, _, _, _, h, hNew⟩ | ⟨hNone, hKept⟩
  · obtain rfl := Option.some.inj (hNew.symm.trans hReading')
    exact .inr ⟨_, (cardinality?_eq_some_iff hReading).mpr ⟨_, _, _, _, h, rfl⟩, rfl⟩
  · obtain rfl := Option.some.inj (hReading'.symm.trans (hKept.trans hReading))
    refine .inl ⟨Option.eq_none_iff_forall_ne_some.mpr fun text hSome => ?_, rfl⟩
    obtain ⟨_, _, _, _, h, -⟩ := (cardinality?_eq_some_iff hReading).mp hSome
    exact hNone _ _ _ _ h

end fragments

namespace Patcher

variable {α : Type}

/-- With columns at hand and no validation, the text that patching by the standard rules gives is
read as the lines of the given text: as many, with the texts that the rules asked for, the kept ones
read as before, the replaced ones as plain text, and all aliases declared on the same lines. -/
theorem ofText?_answer_patch (patcher : Patcher) (hRules : patcher.rules = Rule.standard)
    (hValidates : patcher.settings.validates = false)
    (hSeparator : ∃ c ∈ patcher.settings.separator, isCardinalityChar c = false)
    (columns : ColumnSet) (sketchType : Text) (connection : Option Connection) (sql : Text) :
    ∃ query edited flag patched again,
      Query.ofText? patcher.settings.separator sql = .ok query ∧
      Rule.applyAll columns patcher.rules query = (edited, .ok flag) ∧
      (patcher.patch sketchType (some columns) connection (.text sql : Source α)).answer =
        .text patched ∧
      Query.ofText? patcher.settings.separator patched = .ok again ∧
      again.fragments.length = query.fragments.length ∧
      again.fragments.map (·.text) = edited.fragments.map (·.rendered) ∧
      (∀ (line : Nat) (old new fresh : Fragment), query.fragments[line]? = some old →
        edited.fragments[line]? = some new → again.fragments[line]? = some fresh →
        (new.replacement = none →
          fresh.role = old.role ∧ fresh.attributes = old.attributes) ∧
        (new.replacement ≠ none → fresh.role = .text ∧ fresh.attributes = {})) ∧
      (∀ name, Keyed.get? again.aliases name = Keyed.get? query.aliases name) ∧
      ∀ name, Keyed.get? again.joins name = Keyed.get? query.joins name := by
  have hne : patcher.settings.separator ≠ [] := by
    obtain ⟨c, hc, -⟩ := hSeparator
    exact List.ne_nil_of_mem hc
  obtain ⟨lines, hSplit⟩ := exists_split hne sql
  obtain ⟨flag, -, hRan⟩ := Rule.ran_standard columns lines
  have hAgain := split_join_patchedLines hSplit hSeparator columns
  have hLength (lines : List Text) : (Query.ofLines lines).fragments.length = lines.length := by
    rw [← List.length_map Fragment.text, Query.map_text_ofLines]
  refine ⟨.ofLines lines, _, _, _, .ofLines (patchedLines columns lines),
    Query.ofText?_eq_ok hSplit, hRules ▸ Rule.applyAll_of_ran hRan,
    answer_patch_standard hRules hValidates hSplit sketchType connection,
    Query.ofText?_eq_ok hAgain, ?_, ?_, ?_, get?_aliases_patchedLines columns lines,
    get?_joins_patchedLines columns lines⟩
  · rw [hLength, hLength, length_patchedLines]
  · rw [Query.map_text_ofLines, Query.map_rendered_replaced]
  · intro line old new fresh hOld hNew hFresh
    rw [getElem?_replaced hOld] at hNew
    obtain rfl := Option.some.inj hNew
    rcases fragment_patchedLines_cases hOld hFresh with ⟨hNone, rfl⟩ | ⟨text, hSome, rfl⟩
    · exact ⟨fun _ => ⟨rfl, rfl⟩, fun hReplaced => absurd hNone hReplaced⟩
    · refine ⟨fun hKept => ?_, fun _ => ⟨rfl, rfl⟩⟩
      cases hSome.symm.trans hKept

/-- The sum is plain text when it is read again, and the alias that it used is still declared by the
table line. -/
theorem ofText?_answer_patch_sumOfSketch :
    ({} : Patcher).rules = Rule.standard ∧ ({} : Patcher).settings.validates = false ∧
      (∃ c ∈ ({} : Patcher).settings.separator, isCardinalityChar c = false) ∧
      (Query.ofLines sumOfSketch).fragments[1]?.map (·.role) = some .aggregation ∧
      ∃ patched again,
        (({} : Patcher).patch "hll" (some ["s.b.v"]) none
          (.text (join "\n" sumOfSketch) : Source Unit)).answer = .text patched ∧
        Query.ofText? "\n" patched = .ok again ∧ again.fragments.length = 4 ∧
        again.fragments[1]?.map (·.role) = some .text ∧
        Keyed.get? again.aliases "t" = some 3 := by
  have hSeparator : ∃ c ∈ ({} : Patcher).settings.separator, isCardinalityChar c = false :=
    ⟨'\n', by decide, by decide⟩
  refine ⟨rfl, rfl, hSeparator, rfl, ?_⟩
  obtain ⟨query, edited, flag, patched, again, hQuery, hEdited, hAnswer, hAgain, hLength, -, hLines,
    hAliases, -⟩ := ofText?_answer_patch (α := Unit) {} rfl rfl hSeparator ["s.b.v"] "hll" none
      (join "\n" sumOfSketch)
  have hSplit : split ({} : Patcher).settings.separator (join "\n" sumOfSketch) =
      some sumOfSketch :=
    (split_eq_some_iff (by decide)).mpr ⟨Cut.of_not_mem (by decide) (by decide), rfl⟩
  obtain rfl := Except.ok.inj ((Query.ofText?_eq_ok hSplit).symm.trans hQuery)
  refine ⟨patched, again, hAnswer, hAgain, hLength, ?_, hAliases "t"⟩
  obtain ⟨fresh, hFresh⟩ : ∃ fresh, again.fragments[1]? = some fresh :=
    ⟨_, List.getElem?_eq_getElem (by rw [hLength]; decide)⟩
  have hNew : (Rule.applyAll ["s.b.v"] Rule.standard (Query.ofLines sumOfSketch)).1.fragments[1]? =
      some { text := "sum(\"t\".\"v\") as \"m\"", replacement := cardinalityLine "t" "v" "m" false
             role := .aggregation
             attributes := Shape.attributes (.aggregation "sum(" "t" "v" "m" false) } := rfl
  change Rule.applyAll ["s.b.v"] Rule.standard (Query.ofLines sumOfSketch) = _ at hEdited
  rw [hEdited] at hNew
  rw [hFresh, Option.map_some, ((hLines 1 _ _ _ rfl hNew hFresh).2 nofun).1]

end Patcher

end QueryPatch
