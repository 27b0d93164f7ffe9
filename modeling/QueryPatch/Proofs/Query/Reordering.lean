import QueryPatch.Proofs.Query.Blocks
import QueryPatch.Proofs.Query.Reread
import Mathlib.Data.List.FinRange

/-! # Lines in another order

Lines of one clause can change places if no two of them declare the same alias for a table. The last
line that declares an alias may be another one then, but it declares the same table, or an
aggregation declares the alias before and after.
-/
set_option autoImplicit false

namespace QueryPatch

open Text

/-- One declaration of an alias does as well as the other: they are the same, or none is a table. -/
inductive Fragment.Exchangeable (first second : Fragment) : Prop
  | same : first = second → Exchangeable first second
  | noTable : first.role ≠ .table → second.role ≠ .table → Exchangeable first second

/-- No two readings declare an alias differently. -/
def Reading.Agreeing (readings : List Reading) : Prop :=
  ∀ first ∈ readings, ∀ second ∈ readings, ∀ tableAlias ∈ first.aliases,
    tableAlias ∈ second.aliases → first.fragment.Exchangeable second.fragment

namespace Query

variable {before run run' after readings readings' : List Reading} {columns : ColumnSet}

theorem declaring?_of_perm (hPerm : readings.Perm readings') (hAgree : Reading.Agreeing readings)
    (tableAlias : Text) :
    Option.Rel Fragment.Exchangeable ((ofReadings readings).declaring? (some tableAlias))
      ((ofReadings readings').declaring? (some tableAlias)) := by
  cases h : (ofReadings readings).declaring? (some tableAlias) with
  | none =>
    cases h' : (ofReadings readings').declaring? (some tableAlias) with
    | none => exact .none
    | some fragment' =>
      obtain ⟨line, reading, hLast, -⟩ := declaring?_ofReadings_eq_some_iff.mp h'
      have hMem := hPerm.mem_iff.mpr (List.mem_of_getElem? hLast.here)
      obtain ⟨fragment, hSome⟩ := exists_declaring hMem hLast.declares
      cases h.symm.trans hSome
  | some fragment =>
    obtain ⟨line, reading, hLast, rfl⟩ := declaring?_ofReadings_eq_some_iff.mp h
    have hMem := List.mem_of_getElem? hLast.here
    cases h' : (ofReadings readings').declaring? (some tableAlias) with
    | none =>
      obtain ⟨fragment', hSome⟩ := exists_declaring (hPerm.mem_iff.mp hMem) hLast.declares
      cases h'.symm.trans hSome
    | some fragment' =>
      obtain ⟨line', reading', hLast', rfl⟩ := declaring?_ofReadings_eq_some_iff.mp h'
      have hMem' := hPerm.mem_iff.mpr (List.mem_of_getElem? hLast'.here)
      exact .some (hAgree reading hMem reading' hMem' tableAlias hLast.declares hLast'.declares)

/-- What stands before and after decides as it did. -/
theorem declaring?_reordered (hPerm : run.Perm run') (hAgree : Reading.Agreeing run)
    (tableAlias : Text) :
    Option.Rel Fragment.Exchangeable
      ((ofReadings (before ++ run ++ after)).declaring? (some tableAlias))
      ((ofReadings (before ++ run' ++ after)).declaring? (some tableAlias)) := by
  simp only [declaring?_append]
  cases (ofReadings after).declaring? (some tableAlias) with
  | some fragment => exact .some (.same rfl)
  | none =>
    rw [Option.none_or, Option.none_or]
    have hRun := declaring?_of_perm hPerm hAgree tableAlias
    generalize (ofReadings run).declaring? (some tableAlias) = first at hRun
    generalize (ofReadings run').declaring? (some tableAlias) = second at hRun
    cases hRun with
    | some hSame => exact .some hSame
    | none =>
      rw [Option.none_or]
      cases (ofReadings before).declaring? (some tableAlias) with
      | some fragment => exact .some (.same rfl)
      | none => exact .none

theorem overSketch_of_rel {query query' : Query} {fragment : Fragment}
    (h : Option.Rel Fragment.Exchangeable (query.declaring? fragment.attributes.tableAlias)
      (query'.declaring? fragment.attributes.tableAlias)) :
    query.overSketch columns fragment = query'.overSketch columns fragment := by
  rw [overSketch, overSketch]
  generalize query.declaring? fragment.attributes.tableAlias = first at h
  generalize query'.declaring? fragment.attributes.tableAlias = second at h
  cases h with
  | none => rfl
  | some hSame =>
    cases hSame with
    | same hEq => rw [hEq]
    | noTable hFirst hSecond => simp [hFirst, hSecond]

theorem cardinality?_reordered (hPerm : run.Perm run') (hAgree : Reading.Agreeing run)
    (fragment : Fragment) :
    (ofReadings (before ++ run ++ after)).cardinality? columns fragment =
      (ofReadings (before ++ run' ++ after)).cardinality? columns fragment := by
  apply cardinality?_congr
  intro
  apply overSketch_of_rel
  cases fragment.attributes.tableAlias with
  | none => exact .none
  | some tableAlias => exact declaring?_reordered hPerm hAgree tableAlias

end Query

section plain

variable {lines : List Text}

theorem Clause.after_append (clause : Clause) (lines later : List Text) :
    clause.after (lines ++ later) = (clause.after lines).after later :=
  List.foldl_append

theorem Clause.after_of_plain (clause : Clause)
    (hPlain : ∀ line ∈ lines, ∀ keyword : Keyword, line ≠ keyword.text) :
    clause.after lines = clause := by
  induction lines with
  | nil => rfl
  | cons line rest ih =>
    rw [Clause.after, List.foldl_cons, clause.next_of_ne_keyword (hPlain line List.mem_cons_self)]
    exact ih fun other hOther => hPlain other (List.mem_cons_of_mem line hOther)

theorem readLines_of_plain (recognisers : List Recogniser) (clause : Clause)
    (hPlain : ∀ line ∈ lines, ∀ keyword : Keyword, line ≠ keyword.text) :
    readLines recognisers clause lines = lines.map (readLine recognisers clause) := by
  induction lines with
  | nil => rfl
  | cons line rest ih =>
    rw [readLines_cons, clause.next_of_ne_keyword (hPlain line List.mem_cons_self), List.map_cons,
      ih fun other hOther => hPlain other (List.mem_cons_of_mem line hOther)]

end plain

/-- No two lines of the run, which follows on the lines before it, are tables with the same
alias. -/
def TablesApart {size : Nat} (before : List Text) (run : Fin size → Text) : Prop :=
  NearestKeyword before before.length .source →
    ∀ i j schema schema' name name' tableAlias, TableLine (strip (run i)) schema name tableAlias →
      TableLine (strip (run j)) schema' name' tableAlias → i = j

section run

variable {size : Nat} {before after : List Text} {run : Fin size → Text}

theorem clause_eq_source_iff :
    Clause.outside.after before = .source ↔ NearestKeyword before before.length .source := by
  rw [← Clause.after_take_eq_source_iff, List.take_length]

theorem TablesApart.agreeing (h : TablesApart before run) :
    Reading.Agreeing (List.ofFn fun i =>
      readLine Recogniser.standard (Clause.outside.after before) (run i)) := by
  intro first hFirst second hSecond tableAlias hAlias hAlias'
  obtain ⟨i, rfl⟩ := List.mem_ofFn.mp hFirst
  obtain ⟨j, rfl⟩ := List.mem_ofFn.mp hSecond
  have hRead := read_readLine (Clause.outside.after before) (run i)
  have hRead' := read_readLine (Clause.outside.after before) (run j)
  generalize hClause : Clause.outside.after before = clause at *
  rcases hRead.mem_aliases_iff.mp hAlias with ⟨rfl, _, _, hTable⟩ | ⟨rfl, _, _, _, _, hLine⟩
  · rcases hRead'.mem_aliases_iff.mp hAlias' with ⟨-, _, _, hTable'⟩ | ⟨hSelect, -⟩
    · obtain rfl := h (clause_eq_source_iff.mp hClause) i j _ _ _ _ _ hTable hTable'
      exact .same rfl
    · cases hSelect
  · rcases hRead'.mem_aliases_iff.mp hAlias' with ⟨hSource, -⟩ | ⟨-, _, _, _, _, hLine'⟩
    · cases hSource
    · rw [hRead.eq_of_aggregationLine hLine, hRead'.eq_of_aggregationLine hLine']
      exact .noTable nofun nofun

theorem ofLines_run (hPlain : ∀ i, ∀ keyword : Keyword, run i ≠ keyword.text) :
    Query.ofLines (before ++ List.ofFn run ++ after) =
      .ofReadings (readLines Recogniser.standard .outside before ++
        (List.ofFn fun i => readLine Recogniser.standard (Clause.outside.after before) (run i)) ++
        readLines Recogniser.standard (Clause.outside.after before) after) := by
  have hLines : ∀ line ∈ List.ofFn run, ∀ keyword : Keyword, line ≠ keyword.text := by
    intro line hLine
    obtain ⟨i, rfl⟩ := List.mem_ofFn.mp hLine
    exact hPlain i
  rw [Query.ofLines, readLines_append, readLines_append, readLines_of_plain _ _ hLines,
    Clause.after_append, Clause.after_of_plain _ hLines, List.map_ofFn]
  rfl

theorem fragments_run (hPlain : ∀ i, ∀ keyword : Keyword, run i ≠ keyword.text) :
    (Query.ofLines (before ++ List.ofFn run ++ after)).fragments =
      (readLines Recogniser.standard .outside before).map (·.fragment) ++
        (List.ofFn fun i =>
          (readLine Recogniser.standard (Clause.outside.after before) (run i)).fragment) ++
        (readLines Recogniser.standard (Clause.outside.after before) after).map (·.fragment) := by
  rw [ofLines_run hPlain, Query.ofReadings, List.map_append, List.map_append, List.map_ofFn]
  rfl

/-- What the standard rules make of the line, if this is the query it stands in. -/
def Query.patchedLine (query : Query) (columns : ColumnSet) (reading : Reading) : Text :=
  (query.cardinality? columns reading.fragment).getD reading.fragment.text

/-- The lines of the run are patched in their new places as in their old ones, and all other lines
stay as they are patched. -/
theorem patchedLines_reordered (columns : ColumnSet) (after : List Text)
    (hPlain : ∀ i, ∀ keyword : Keyword, run i ≠ keyword.text) (hTables : TablesApart before run)
    (order : Equiv.Perm (Fin size)) :
    ∃ front middle back,
      patchedLines columns (before ++ List.ofFn run ++ after) = front ++ List.ofFn middle ++ back ∧
      patchedLines columns (before ++ List.ofFn (run ∘ order) ++ after) =
        front ++ List.ofFn (middle ∘ order) ++ back ∧
      front.length = before.length ∧ back.length = after.length := by
  have hPlain' : ∀ i, ∀ keyword : Keyword, (run ∘ order) i ≠ keyword.text :=
    fun i => hPlain (order i)
  have hSame (fragment : Fragment) :
      (Query.ofLines (before ++ List.ofFn (run ∘ order) ++ after)).cardinality? columns fragment =
        (Query.ofLines (before ++ List.ofFn run ++ after)).cardinality? columns fragment := by
    rw [ofLines_run hPlain, ofLines_run hPlain']
    exact (Query.cardinality?_reordered (order.ofFn_comp_perm _).symm hTables.agreeing
      fragment).symm
  generalize hQuery : Query.ofLines (before ++ List.ofFn run ++ after) = query at hSame
  refine ⟨(readLines Recogniser.standard .outside before).map (query.patchedLine columns),
    fun i => query.patchedLine columns
      (readLine Recogniser.standard (Clause.outside.after before) (run i)),
    (readLines Recogniser.standard (Clause.outside.after before) after).map
      (query.patchedLine columns), ?_, ?_, ?_, ?_⟩
  · rw [patchedLines, fragments_run hPlain, hQuery]
    simp only [List.map_append, List.map_map, List.map_ofFn]
    rfl
  · rw [patchedLines, fragments_run hPlain']
    simp only [hSame, List.map_append, List.map_map, List.map_ofFn]
    rfl
  · rw [List.length_map, length_readLines]
  · rw [List.length_map, length_readLines]

end run

end QueryPatch
