import QueryPatch.Proofs.Line.Standard
import QueryPatch.Proofs.Rule.Cardinality
import QueryPatch.Proofs.Rule.Sequence

/-! # Queries read from lines

How the parts of a query that was read from its lines are found again in the lines.
-/
set_option autoImplicit false

namespace QueryPatch

namespace Query

def ofLines (lines : List Text) : Query :=
  .ofReadings (readLines Recogniser.standard .outside lines)

theorem readings?_eq_ok {separator text : Text} {lines : List Text}
    (h : Text.split separator text = some lines) :
    readings? Recogniser.standard separator text =
      .ok (readLines Recogniser.standard .outside lines) := by
  rw [readings?, h]

theorem declaring?_ofReadings_eq_some_iff {readings : List Reading} {tableAlias : Text}
    {fragment : Fragment} :
    (ofReadings readings).declaring? (some tableAlias) = some fragment ↔
      ∃ line reading, LastDeclaration (·.aliases) readings tableAlias line reading ∧
        fragment = reading.fragment := by
  simp only [declaring?, Option.bind_eq_bind, Option.bind_some, Option.bind_eq_some_iff]
  constructor
  · rintro ⟨line, hLine, hFragment⟩
    obtain ⟨reading, hLast⟩ := get?_declarations_eq_some_iff.mp hLine
    refine ⟨line, reading, hLast, ?_⟩
    simpa [ofReadings, hLast.here] using hFragment.symm
  · rintro ⟨line, reading, hLast, rfl⟩
    refine ⟨line, get?_declarations_eq_some_iff.mpr ⟨reading, hLast⟩, ?_⟩
    simp [ofReadings, hLast.here]

end Query

variable {lines : List Text} {line : Nat} {reading : Reading}

theorem getElem?_standard_eq_some_iff :
    (readLines Recogniser.standard .outside lines)[line]? = some reading ↔
      ∃ text, lines[line]? = some text ∧
        readLine Recogniser.standard (Clause.outside.after (lines.take line)) text = reading := by
  rw [getElem?_readLines, Option.map_eq_some_iff]

theorem read_of_getElem?
    (h : (readLines Recogniser.standard .outside lines)[line]? = some reading) :
    ∃ text, lines[line]? = some text ∧
      Read (Clause.outside.after (lines.take line)) text reading := by
  obtain ⟨text, hText, rfl⟩ := getElem?_standard_eq_some_iff.mp h
  exact ⟨text, hText, read_readLine _ text⟩

theorem Query.replacement_eq_none_of_mem {fragment : Fragment}
    (h : fragment ∈ (Query.ofLines lines).fragments) : fragment.replacement = none := by
  obtain ⟨reading, hReading, rfl⟩ := List.mem_map.mp h
  obtain ⟨line, hLine⟩ := List.mem_iff_getElem?.mp hReading
  obtain ⟨text, -, hRead⟩ := read_of_getElem? hLine
  exact hRead.replacement_eq_none

/-- The lines that the standard rules ask for. -/
def patchedLines (columns : ColumnSet) (lines : List Text) : List Text :=
  (Query.ofLines lines).fragments.map fun fragment =>
    ((Query.ofLines lines).cardinality? columns fragment).getD fragment.text

/-- Whether the standard rules replace any line. -/
def Patches (columns : ColumnSet) (lines : List Text) : Prop :=
  ∃ fragment ∈ (Query.ofLines lines).fragments,
    ((Query.ofLines lines).cardinality? columns fragment).isSome

theorem length_patchedLines (columns : ColumnSet) (lines : List Text) :
    (patchedLines columns lines).length = lines.length := by
  rw [patchedLines, List.length_map, Query.ofLines, Query.ofReadings, List.length_map,
    length_readLines]

theorem getElem?_patchedLines {columns : ColumnSet}
    (h : (readLines Recogniser.standard .outside lines)[line]? = some reading) :
    (patchedLines columns lines)[line]? =
      some (((Query.ofLines lines).cardinality? columns reading.fragment).getD
        reading.fragment.text) := by
  rw [patchedLines, List.getElem?_map, Query.ofLines, Query.ofReadings, List.getElem?_map, h]
  rfl

theorem Query.map_text_ofLines (lines : List Text) :
    (Query.ofLines lines).fragments.map Fragment.text = lines := by
  apply List.ext_getElem?
  intro line
  rw [List.getElem?_map, Query.ofLines, Query.ofReadings, List.getElem?_map, getElem?_readLines]
  cases lines[line]? with
  | none => rfl
  | some text => exact congrArg some (read_readLine _ text).text_eq

theorem patchedLines_eq_self {columns : ColumnSet} {lines : List Text}
    (h : ¬ Patches columns lines) : patchedLines columns lines = lines := by
  have hText : patchedLines columns lines = (Query.ofLines lines).fragments.map Fragment.text := by
    apply List.map_congr_left
    intro fragment hFragment
    rw [Option.not_isSome_iff_eq_none.mp fun hSome => h ⟨fragment, hFragment, hSome⟩]
    rfl
  rw [hText, Query.map_text_ofLines]

theorem Query.map_rendered_replaced (columns : ColumnSet) (lines : List Text) :
    ((Query.ofLines lines).replaced ((Query.ofLines lines).cardinality? columns)).fragments.map
      Fragment.rendered = patchedLines columns lines := by
  rw [Query.replaced, List.map_map]
  rfl

theorem Rule.ran_standard (columns : ColumnSet) (lines : List Text) :
    ∃ flag, (flag = true ↔ Patches columns lines) ∧
      Rule.Ran columns Rule.standard (Query.ofLines lines) [flag]
        ((Query.ofLines lines).replaced ((Query.ofLines lines).cardinality? columns)) := by
  refine ⟨_, ?_, .cons (Rule.apply_cardinality columns _ fun fragment hFragment =>
    Query.replacement_eq_none_of_mem hFragment) .nil⟩
  rw [List.any_eq_true]
  rfl

end QueryPatch
