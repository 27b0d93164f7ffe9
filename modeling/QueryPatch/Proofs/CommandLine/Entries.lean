import QueryPatch.CommandLine.Run
import QueryPatch.Proofs.Catalog.Population
import QueryPatch.Proofs.Patch.Revision

/-! # The entries of a run

What a run writes for a query depends on the other queries only by the columns that are known by
then: those of the first reading of the catalog that has succeeded. A query whose reading fails
leaves no trace in the entries of the others.
-/
set_option autoImplicit false

namespace QueryPatch

open Text

namespace Lookup

variable {sketchType : Text} {held : Option ColumnSet} {connection : Option Connection}

theorem held_of (sketchType : Text) (held : Option ColumnSet) (connection : Option Connection) :
    (Lookup.of sketchType held connection).held =
      held.or (populate sketchType connection).held := by
  cases held <;> rfl

theorem columns_of (sketchType : Text) (held : Option ColumnSet) (connection : Option Connection) :
    (Lookup.of sketchType held connection).columns =
      (Lookup.of sketchType held connection).held.getD [] := by
  cases held with
  | some columns => rfl
  | none =>
    have hPopulation := population_populate sketchType connection
    rw [Lookup.of]
    generalize populate sketchType connection = lookup at hPopulation
    cases hPopulation <;> rfl

theorem held_populate_of_answers {connection : Connection} {names : List Text}
    (h : connection.Answers names) (sketchType : Text) :
    (populate sketchType (some connection)).held =
      some (.ofList (names.map lowercase)) := by
  simp only [populate, h.read_eq]

theorem held_populate_eq_none
    (h : ∀ asked, connection = some asked → ∀ names, ¬ asked.Answers names) (sketchType : Text) :
    (populate sketchType connection).held = none := by
  have hPopulation := population_populate sketchType connection
  generalize populate sketchType connection = lookup at hPopulation
  cases hPopulation with
  | answered hAnswers => exact absurd hAnswers (h _ rfl _)
  | failed | absent => rfl

end Lookup

namespace Patcher

variable {α : Type} {patcher other : Patcher} {given : Source α} {sketchType sketchType' : Text}
  {held held' : Option ColumnSet} {connection connection' : Option Connection}

/-- Answers differ only where another candidate is accepted. -/
theorem answer_patch_congr
    (h : ∀ candidate,
      patcher.Accepts (Lookup.of sketchType held connection).columns given candidate ↔
        other.Accepts (Lookup.of sketchType' held' connection').columns given candidate) :
    (patcher.patch sketchType held connection given).answer =
      (other.patch sketchType' held' connection' given).answer := by
  have hOutcome := patcher.outcome_patch sketchType held connection given
  have hOther := other.outcome_patch sketchType' held' connection' given
  by_cases hSome : ∃ candidate,
      patcher.Accepts (Lookup.of sketchType held connection).columns given candidate
  · obtain ⟨candidate, hAccepts⟩ := hSome
    rw [hOutcome.answer_of_accepts hAccepts, hOther.answer_of_accepts ((h candidate).mp hAccepts)]
  · have hNone := not_exists.mp hSome
    rw [hOutcome.answer_of_not_accepts hNone,
      hOther.answer_of_not_accepts fun candidate hAccepts => hNone candidate
        ((h candidate).mpr hAccepts)]

end Patcher

namespace CommandLine

/-- What becomes of a query with these columns at hand. -/
def entry (patcher : Patcher) (columns : ColumnSet) (statement : Statement) : Text :=
  Result.text ⟨statement,
    patcher.patch patcher.settings.sketchType (some columns) none (.text statement.text)⟩

/-- What is held once a query is patched: what was held from the start, or else what the first of
the readings up to this query gives to hold. -/
def heldAt (held : Option ColumnSet) (reading : Nat → Option ColumnSet) (query : Nat) :
    Option ColumnSet :=
  held.or ((List.range (query + 1)).findSome? reading)

/-- The columns that are known when a query is patched. -/
def columnsAt (sketchType : Text) (held : Option ColumnSet) (connection : Nat → Option Connection)
    (query : Nat) : ColumnSet :=
  (heldAt held (fun earlier => (Lookup.populate sketchType (connection earlier)).held) query).getD
    []

/-- All queries with what becomes of them. -/
def entries (patcher : Patcher) (held : Option ColumnSet) (connection : Nat → Option Connection)
    (statements : List Statement) : List (Statement × Text) :=
  statements.zipIdx.map fun pair =>
    (pair.1, entry patcher (columnsAt patcher.settings.sketchType held connection pair.2) pair.1)

/-- The queries as they were captured. -/
def unchanged (statements : List Statement) : List (Statement × Text) :=
  statements.map fun statement => (statement, statement.text)

/-- How many queries do not stay as they were captured. -/
def changes (entries : List (Statement × Text)) : Nat :=
  entries.countP fun pair => pair.2 ≠ pair.1.text

/-- A sequence without one of its members. -/
def skipping {α : Type} (skipped : Nat) (sequence : Nat → α) (number : Nat) : α :=
  if number < skipped then sequence number else sequence (number + 1)

section heldAt

variable {held : Option ColumnSet} {reading : Nat → Option ColumnSet} {columns : ColumnSet}
  {query : Nat}

theorem heldAt_zero (held : Option ColumnSet) (reading : Nat → Option ColumnSet) :
    heldAt held reading 0 = held.or (reading 0) := by
  simp [heldAt]

theorem heldAt_succ (held : Option ColumnSet) (reading : Nat → Option ColumnSet) (query : Nat) :
    heldAt held reading (query + 1) = (heldAt held reading query).or (reading (query + 1)) := by
  rw [heldAt, heldAt, List.range_succ, List.findSome?_append, Option.or_assoc]
  simp

/-- The first query is one that was patched before the others. -/
theorem heldAt_shift (held : Option ColumnSet) (reading : Nat → Option ColumnSet) (query : Nat) :
    heldAt (held.or (reading 0)) (fun query => reading (query + 1)) query =
      heldAt held reading (query + 1) := by
  induction query with
  | zero => rw [heldAt_zero, heldAt_succ, heldAt_zero]
  | succ query ih => rw [heldAt_succ, heldAt_succ held, ih]

theorem heldAt_of_first {first : Nat} (hHeld : held = none) (hFirst : reading first = some columns)
    (hBefore : ∀ earlier < first, reading earlier = none) (hQuery : first ≤ query) :
    heldAt held reading query = some columns := by
  subst hHeld
  induction query, hQuery using Nat.le_induction with
  | base =>
    cases first with
    | zero => rw [heldAt_zero, hFirst]; rfl
    | succ first =>
      have hNone : heldAt none reading first = none := by
        rw [heldAt, Option.none_or, List.findSome?_eq_none_iff]
        exact fun earlier hEarlier => hBefore earlier (List.mem_range.mp hEarlier)
      rw [heldAt_succ, hNone, Option.none_or, hFirst]
  | succ query _ ih => rw [heldAt_succ, ih]; rfl

end heldAt

section columnsAt

variable {sketchType : Text} {connection : Nat → Option Connection} {query : Nat}

theorem columnsAt_of_held (columns : ColumnSet) :
    columnsAt sketchType (some columns) connection query = columns := rfl

theorem columnsAt_of_answers {first : Nat} {asked : Connection} {names : List Text}
    (hFirst : connection first = some asked) (hAnswers : asked.Answers names)
    (hBefore : ∀ earlier < first, ∀ asked, connection earlier = some asked →
      ∀ names, ¬ asked.Answers names) (hQuery : first ≤ query) :
    columnsAt sketchType none connection query = .ofList (names.map lowercase) := by
  have hReading : (Lookup.populate sketchType (connection first)).held =
      some (.ofList (names.map lowercase)) := by
    rw [hFirst]
    exact Lookup.held_populate_of_answers hAnswers sketchType
  rw [columnsAt, heldAt_of_first rfl hReading
    (fun earlier hEarlier => Lookup.held_populate_eq_none (hBefore earlier hEarlier) sketchType)
    hQuery, Option.getD_some]

theorem columnsAt_of_not_answers
    (h : ∀ earlier ≤ query, ∀ asked, connection earlier = some asked →
      ∀ names, ¬ asked.Answers names) :
    columnsAt sketchType none connection query = [] := by
  have hNone : heldAt none
      (fun earlier => (Lookup.populate sketchType (connection earlier)).held) query = none := by
    rw [heldAt, Option.none_or, List.findSome?_eq_none_iff]
    intro earlier hEarlier
    exact Lookup.held_populate_eq_none
      (h earlier (Nat.le_of_lt_succ (List.mem_range.mp hEarlier))) sketchType
  rw [columnsAt, hNone, Option.getD_none]

end columnsAt

section entry

variable {patcher other : Patcher} {columns columns' : ColumnSet} {statement : Statement}

theorem entry_congr
    (h : ∀ candidate,
      patcher.Accepts columns (.text statement.text : Source Empty) candidate ↔
        other.Accepts columns' (.text statement.text : Source Empty) candidate) :
    entry patcher columns statement = entry other columns' statement := by
  have hAnswer : (patcher.patch patcher.settings.sketchType (some columns) none
        (.text statement.text : Source Empty)).answer =
      (other.patch other.settings.sketchType (some columns') none (.text statement.text)).answer :=
    Patcher.answer_patch_congr h
  rw [entry, entry, Result.text, Result.text, hAnswer]

/-- Without columns a query is written as it was captured. -/
theorem entry_nil (hRules : patcher.rules = Rule.standard)
    (hSeparator : patcher.settings.separator ≠ []) (statement : Statement) :
    entry patcher [] statement = statement.text := by
  obtain ⟨lines, hSplit⟩ := exists_split hSeparator statement.text
  have hOutcome := patcher.outcome_patch patcher.settings.sketchType (some []) none
    (.text statement.text : Source Empty)
  rw [entry, Result.text, hOutcome.answer_of_not_accepts]
  intro candidate hAccepts
  exact not_patches_nil lines ((Patcher.proposes_standard_iff hRules hSplit).mp hAccepts.1).1

end entry

section entries

variable {patcher : Patcher} {held : Option ColumnSet} {connection : Nat → Option Connection}
  {statements before after : List Statement} {statement : Statement}

theorem entries_cons (patcher : Patcher) (held : Option ColumnSet)
    (connection : Nat → Option Connection) (statement : Statement) (rest : List Statement) :
    entries patcher held connection (statement :: rest) =
      (statement, entry patcher
        (Lookup.of patcher.settings.sketchType held (connection 0)).columns statement) ::
      entries patcher (Lookup.of patcher.settings.sketchType held (connection 0)).held
        (fun query => connection (query + 1)) rest := by
  have hShift := heldAt_shift held
    fun query => (Lookup.populate patcher.settings.sketchType (connection query)).held
  rw [entries, entries, List.zipIdx_cons, List.zipIdx_succ, List.map_cons, List.map_map,
    Lookup.columns_of, Lookup.held_of]
  simp only [columnsAt, heldAt_zero, hShift]
  rfl

/-- With a separator all texts can be read, so the catalog is asked by the first query. -/
theorem map_entry_patchAll (hSeparator : patcher.settings.separator ≠ []) :
    (patchAll patcher connection held statements).map (fun result =>
        (result.statement, result.text)) = entries patcher held connection statements := by
  induction statements generalizing held connection with
  | nil => rfl
  | cons statement rest ih =>
    obtain ⟨lines, hSplit⟩ := exists_split hSeparator statement.text
    have hOutcome := patcher.outcome_patch patcher.settings.sketchType held (connection 0)
      (.text statement.text : Source Empty)
    have hHeld := (hOutcome.held_of_readable (Query.readings?_eq_ok hSplit)).1
    have hAnswer : (patcher.patch patcher.settings.sketchType held (connection 0)
          (.text statement.text : Source Empty)).answer =
        (patcher.patch patcher.settings.sketchType
          (some (Lookup.of patcher.settings.sketchType held (connection 0)).columns) none
          (.text statement.text)).answer :=
      Patcher.answer_patch_congr fun candidate => Iff.rfl
    rw [patchAll, List.map_cons, ih, hHeld, entries_cons, entry, Result.text, Result.text, hAnswer]

theorem map_fst_entries : (entries patcher held connection statements).map (·.1) = statements := by
  rw [entries, List.map_map]
  exact List.zipIdx_map_fst 0 statements

theorem entries_of_columns {columns : ColumnSet}
    (h : ∀ query, columnsAt patcher.settings.sketchType held connection query = columns) :
    entries patcher held connection statements =
      statements.map fun statement => (statement, entry patcher columns statement) := by
  have hStatements := congrArg
    (List.map fun statement => (statement, entry patcher columns statement))
    (List.zipIdx_map_fst 0 statements)
  rw [List.map_map] at hStatements
  simp only [entries, h]
  exact hStatements

/-- Without columns all queries are written as they were captured. -/
theorem entries_of_nil (hRules : patcher.rules = Rule.standard)
    (hSeparator : patcher.settings.separator ≠ [])
    (h : ∀ query, columnsAt patcher.settings.sketchType held connection query = []) :
    entries patcher held connection statements = unchanged statements := by
  rw [entries_of_columns h]
  simp only [entry_nil hRules hSeparator]
  rfl

/-- A query whose reading of the catalog fails can be left out. The others have the entries they
have without it. -/
theorem entries_skipping
    (hFails : held = none → ∀ asked, connection before.length = some asked →
      ∀ names, ¬ asked.Answers names) :
    ∃ earlier text later,
      entries patcher held connection (before ++ statement :: after) =
        earlier ++ (statement, text) :: later ∧
      earlier.map (·.1) = before ∧
      entries patcher held (skipping before.length connection) (before ++ after) =
        earlier ++ later := by
  induction before generalizing held connection with
  | nil =>
    refine ⟨[], _, _, entries_cons patcher held connection statement after, rfl, ?_⟩
    have hHeld : (Lookup.of patcher.settings.sketchType held (connection 0)).held = held := by
      rw [Lookup.held_of]
      cases held with
      | some columns => rfl
      | none => exact Lookup.held_populate_eq_none (hFails rfl) _
    rw [hHeld]
    rfl
  | cons first before ih =>
    have hRest := @ih (Lookup.of patcher.settings.sketchType held (connection 0)).held
      (fun query => connection (query + 1)) fun hNone => by
        rw [Lookup.held_of, Option.or_eq_none_iff] at hNone
        exact hFails hNone.1
    obtain ⟨earlier, text, later, hWith, hBefore, hWithout⟩ := hRest
    have hFirst : skipping (before.length + 1) connection 0 = connection 0 :=
      if_pos before.length.succ_pos
    have hSkipping : (fun query => skipping (before.length + 1) connection (query + 1)) =
        skipping before.length fun query => connection (query + 1) := by
      funext query
      simp only [skipping, Nat.add_lt_add_iff_right]
    refine ⟨(first, entry patcher (Lookup.of patcher.settings.sketchType held
      (connection 0)).columns first) :: earlier, text, later, ?_, ?_, ?_⟩
    · rw [List.cons_append, entries_cons, hWith, List.cons_append]
    · rw [List.map_cons, hBefore]
    · rw [List.cons_append, entries_cons, List.length_cons, hFirst, hSkipping, hWithout,
        List.cons_append]

/-- What is decided about one query shows in its own entry only. -/
theorem entries_of_accepts_alike {other : Patcher}
    (hType : patcher.settings.sketchType = other.settings.sketchType)
    (h : ∀ beside ∈ before ++ after, ∀ columns candidate,
      patcher.Accepts columns (.text beside.text : Source Empty) candidate ↔
        other.Accepts columns (.text beside.text : Source Empty) candidate) :
    ∃ earlier text text' later,
      entries patcher held connection (before ++ statement :: after) =
        earlier ++ (statement, text) :: later ∧
      earlier.map (·.1) = before ∧
      entries other held connection (before ++ statement :: after) =
        earlier ++ (statement, text') :: later := by
  have hAlike {statements : List Statement} (hBeside : ∀ beside ∈ statements,
      beside ∈ before ++ after) (first : Nat) :
      (statements.zipIdx first).map (fun pair => (pair.1, entry patcher
        (columnsAt patcher.settings.sketchType held connection pair.2) pair.1)) =
      (statements.zipIdx first).map (fun pair => (pair.1, entry other
        (columnsAt other.settings.sketchType held connection pair.2) pair.1)) := by
    refine List.map_congr_left fun pair hPair => ?_
    have hEntry := entry_congr (h pair.1 (hBeside pair.1 (List.fst_mem_of_mem_zipIdx hPair))
      (columnsAt other.settings.sketchType held connection pair.2))
    rw [hType, hEntry]
  simp only [entries, List.zipIdx_append, List.zipIdx_cons, List.map_append, List.map_cons,
    hAlike fun _ hMem => List.mem_append_left after hMem,
    hAlike fun _ hMem => List.mem_append_right before hMem]
  refine ⟨_, _, _, _, rfl, ?_, rfl⟩
  rw [List.map_map]
  exact List.zipIdx_map_fst 0 before

end entries

end CommandLine

end QueryPatch
