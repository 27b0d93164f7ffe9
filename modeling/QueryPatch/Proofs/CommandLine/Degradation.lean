import QueryPatch.Proofs.CommandLine.Delivery

/-! # Running without the catalog

When the catalog gives no columns, all queries are written as they were captured. A database that
cannot be reached is such a case; settings that do not say where it is are not, and end the run.
-/
set_option autoImplicit false

namespace QueryPatch

open Text

/-- Only the port can keep the settings from saying where the database is. -/
theorem Database.load_eq (environment : Environment) :
    (∃ tcpPort database,
        tcpPort? ((environment.value? "SQL_REWRITER_DB_PORT").getD "5432") = .ok tcpPort ∧
          load environment = .ok database) ∨
      ∃ fault, tcpPort? ((environment.value? "SQL_REWRITER_DB_PORT").getD "5432") = .error fault ∧
        load environment = .error fault := by
  rw [load]
  cases tcpPort? ((environment.value? "SQL_REWRITER_DB_PORT").getD "5432") with
  | ok tcpPort => exact .inl ⟨tcpPort, _, rfl, rfl⟩
  | error fault => exact .inr ⟨fault, rfl, rfl⟩

namespace CommandLine

/-- The output holds the queries as they were captured. -/
structure Outcome.Passes (outcome : Outcome) (storage : Storage) (path : Text)
    (statements : List Statement) : Prop where
  printed : path = ['-'] →
    outcome.written = none ∧ outcome.stdout = rendered (statements.map (·.text))
  filed : path ≠ ['-'] → outcome.stdout = [] ∧ ∃ place, storage.writable path = .ok place ∧
    outcome.written = some (place, rendered (statements.map (·.text)))
  torn_eq_none : outcome.torn = none

/-- The run has also ended well. -/
structure Outcome.PassesThrough (outcome : Outcome) (storage : Storage) (path notice : Text)
    (statements : List Statement) : Prop extends outcome.Passes storage path statements where
  exit_eq_none : outcome.exit = none
  fault_eq_none : outcome.fault = none
  reported : outcome.stderr = notice ++ report 0 statements.length path

section unchanged

variable {statements : List Statement}

theorem not_differs_of_mem_unchanged {pair : Statement × Text} (h : pair ∈ unchanged statements) :
    ¬ decide (pair.2 ≠ pair.1.text) = true := by
  obtain ⟨statement, -, rfl⟩ := List.mem_map.mp h
  simp

theorem changes_unchanged : changes (unchanged statements) = 0 :=
  List.countP_eq_zero.mpr fun _ => not_differs_of_mem_unchanged

theorem progress_unchanged (verbose : Bool) : progress verbose (unchanged statements) = [] := by
  rw [progress, List.filter_eq_nil_iff.mpr fun _ => not_differs_of_mem_unchanged, List.flatMap_nil,
    ite_self]

theorem output_unchanged :
    output (unchanged statements) = rendered (statements.map (·.text)) := by
  rw [output, unchanged, List.map_map]
  rfl

theorem Outcome.Fills.passes {outcome : Outcome} {storage : Storage} {path : Text} {verbose : Bool}
    (h : outcome.Fills storage path verbose (unchanged statements)) :
    outcome.Passes storage path statements := by
  refine ⟨fun hDash => ?_, fun hFile => ?_, h.torn_eq_none⟩
  · obtain ⟨hWritten, hStdout⟩ := h.printed hDash
    rw [progress_unchanged, List.nil_append, output_unchanged] at hStdout
    exact ⟨hWritten, hStdout⟩
  · obtain ⟨hStdout, hWritten⟩ := h.filed hFile
    rw [progress_unchanged] at hStdout
    rw [output_unchanged] at hWritten
    exact ⟨hStdout, hWritten⟩

theorem Outcome.Delivers.passesThrough {outcome : Outcome} {storage : Storage} {path : Text}
    {verbose : Bool} {notice : Text}
    (h : outcome.Delivers storage path verbose notice (unchanged statements)) :
    outcome.PassesThrough storage path notice statements := by
  refine ⟨h.toFills.passes, h.exit_eq_none, h.fault_eq_none, ?_⟩
  rw [h.reported, changes_unchanged, unchanged, List.length_map]

end unchanged

section invoke

variable {invocation : Invocation} {surroundings : Surroundings} {content path message : Text}
  {database : Database} {access : Access}

theorem passes_invoke (h : invocation.Ready surroundings content access path)
    (hTakes : surroundings.storage.Takes path
      (rendered ((Capture.statements content).map (·.text))))
    (hColumns : ∀ query, columnsAt (invocation.patcher surroundings).settings.sketchType
      access.held access.connection? query = []) :
    (invoke invocation surroundings).Passes surroundings.storage path
        (Capture.statements content) ∧
      (access.closing = none →
        (invoke invocation surroundings).PassesThrough surroundings.storage path access.stderr
          (Capture.statements content)) := by
  have hEnds := ends_invoke h
  rw [Invocation.entries, entries_of_nil rfl (List.cons_ne_nil '\n' []) hColumns] at hEnds
  rw [← output_unchanged] at hTakes
  exact ⟨(hEnds.fills hTakes).passes,
    fun hClosing => (hEnds.delivers hTakes hClosing).passesThrough⟩

theorem passesThrough_of_not_connected (h : invocation.Rewrites surroundings content path)
    (hTakes : surroundings.storage.Takes path
      (rendered ((Capture.statements content).map (·.text))))
    (hColumns : invocation.options.sketchColumns = [])
    (hRequires : invocation.options.requiresDatabase = false)
    (hDatabase : Database.load surroundings.environment = .ok database)
    (hConnecting : surroundings.connecting = .error message) :
    (invoke invocation surroundings).PassesThrough surroundings.storage path
      (unreachable database message) (Capture.statements content) := by
  have hAccess := obtain_of_not_connected hColumns hDatabase hConnecting
  rw [hRequires, if_neg Bool.false_ne_true] at hAccess
  exact (passes_invoke ⟨h, hAccess⟩ hTakes fun _ => rfl).2 rfl

theorem fault_of_not_loaded {fault : Fault} (h : invocation.Rewrites surroundings content path)
    (hColumns : invocation.options.sketchColumns = [])
    (hDatabase : Database.load surroundings.environment = .error fault) :
    (invoke invocation surroundings).fault = some fault ∧
      (invoke invocation surroundings).Withholds invocation.options := by
  have hAccess := obtain_of_not_loaded hColumns hDatabase
  constructor
  · rw [invoke_of_rewrites h.text h.statements h.explains]
    simp only [patch, hAccess, Outcome.shown]
  · refine withholds_invoke fun other access place hReady => ?_
    cases hAccess.symm.trans hReady.access

end invoke

/-- When no connection comes about and none is required, all queries pass if the port is a number
and the output takes them; if it is no number, the run ends with a fault and writes nothing. -/
theorem run_of_not_connected (arguments : List Text) (invocation : Invocation)
    (surroundings : Surroundings) (content path message : Text)
    (hArguments : Arguments.ofList arguments = .invocation invocation)
    (hRewrites : invocation.Rewrites surroundings content path)
    (hColumns : invocation.options.sketchColumns = [])
    (hRequires : invocation.options.requiresDatabase = false)
    (hConnecting : surroundings.connecting = .error message) :
    let port := (surroundings.environment.value? "SQL_REWRITER_DB_PORT").getD "5432"
    (∀ number, Database.tcpPort? port = .ok number →
      surroundings.storage.Takes path (rendered ((Capture.statements content).map (·.text))) →
      ∃ database, Database.load surroundings.environment = .ok database ∧
        (run arguments surroundings).PassesThrough surroundings.storage path
          (unreachable database message) (Capture.statements content)) ∧
    ∀ fault, Database.tcpPort? port = .error fault →
      (run arguments surroundings).fault = some fault ∧
        (run arguments surroundings).Withholds invocation.options := by
  intro port
  rw [run_of_invocation hArguments]
  rcases Database.load_eq surroundings.environment with
    ⟨number, database, hPort, hDatabase⟩ | ⟨fault, hPort, hDatabase⟩
  · refine ⟨fun _ _ hTakes => ⟨database, hDatabase, passesThrough_of_not_connected hRewrites hTakes
      hColumns hRequires hDatabase hConnecting⟩, fun fault hFault => ?_⟩
    cases hPort.symm.trans hFault
  · refine ⟨fun number hNumber => ?_, fun other hFault => ?_⟩
    · cases hPort.symm.trans hNumber
    · obtain rfl := Except.error.inj (hPort.symm.trans hFault)
      exact fault_of_not_loaded hRewrites hColumns hDatabase

def portSurroundings (port : Text) : Surroundings :=
  { environment := [("SQL_REWRITER_DB_PORT", port)]
    storage := sumStorage
    connecting := .error "connection refused" }

theorem run_of_not_connected_sumOfSketch :
    Arguments.ofList ["in.sql".toList] = .invocation ⟨"in.sql", {}⟩ ∧
      (run ["in.sql".toList] (portSurroundings "6543")).stdout =
        rendered [join "\n" Patcher.sumOfSketch] ∧
      (run ["in.sql".toList] (portSurroundings "6543")).stderr =
        "ERROR: Cannot connect to localhost:6543/postgres: connection refused\n\n" ++
          "Rewritten: 0/1 queries\n" ∧
      (run ["in.sql".toList] (portSurroundings "abc")).fault = some (.malformedInteger "abc") := by
  have hArguments : Arguments.ofList ["in.sql".toList] = .invocation ⟨"in.sql", {}⟩ := by decide
  have hRewrites (port : Text) : (⟨"in.sql", {}⟩ : Invocation).Rewrites (portSurroundings port)
      (join "\n" Patcher.sumOfSketch) "-" :=
    rewrites_sumStorage rfl rfl rfl
  obtain ⟨database, hDatabase, hPasses⟩ := (run_of_not_connected _ _ (portSurroundings "6543") _ _ _
    hArguments (hRewrites "6543") rfl rfl rfl).1 6543 rfl (.inl rfl)
  have hFault := (run_of_not_connected _ _ (portSurroundings "abc") _ _ _ hArguments
    (hRewrites "abc") rfl rfl rfl).2 (.malformedInteger "abc") rfl
  have hLoad : Database.load (portSurroundings "6543").environment = .ok { tcpPort := 6543 } := by
    rfl
  obtain rfl := Except.ok.inj (hLoad.symm.trans hDatabase)
  refine ⟨hArguments, ?_, ?_, hFault.1⟩
  · rw [(hPasses.printed rfl).2, statements_sumOfSketch]
    rfl
  · rw [hPasses.reported, statements_sumOfSketch]
    rfl

/-- A port that is no number ends the run before anything is tried. -/
theorem run_malformedPort :
    Arguments.ofList ["in.sql".toList] = .invocation ⟨"in.sql", {}⟩ ∧
      (⟨"in.sql", {}⟩ : Invocation).Rewrites (portSurroundings "abc")
        (join "\n" Patcher.sumOfSketch) "-" ∧
      let outcome := run ["in.sql".toList] (portSurroundings "abc")
      outcome.fault = some (.malformedInteger "abc") ∧
        ∀ notice, ¬ outcome.PassesThrough sumStorage "-" notice
          (Capture.statements (join "\n" Patcher.sumOfSketch)) := by
  have hArguments : Arguments.ofList ["in.sql".toList] = .invocation ⟨"in.sql", {}⟩ := by decide
  have hLoad : Database.load (portSurroundings "abc").environment =
      .error (.malformedInteger "abc") := by
    rfl
  have hRewrites : (⟨"in.sql", {}⟩ : Invocation).Rewrites (portSurroundings "abc")
      (join "\n" Patcher.sumOfSketch) "-" :=
    rewrites_sumStorage rfl rfl rfl
  have hFault := (fault_of_not_loaded hRewrites rfl hLoad).1
  rw [← run_of_invocation hArguments] at hFault
  refine ⟨hArguments, hRewrites, hFault, fun notice hPasses => ?_⟩
  cases hFault.symm.trans hPasses.fault_eq_none

end CommandLine

end QueryPatch
