import QueryPatch.Proofs.CommandLine.Entries
import QueryPatch.Proofs.Text.Utf8

/-! # Delivery

A run that can read its input, finds a query in it and knows where its columns come from has entries
to write, and writes them at once. A file can refuse them, or take only the first bytes of them.
Otherwise nothing is written.
-/
set_option autoImplicit false

namespace QueryPatch.CommandLine

open Text Capture

def Invocation.settings (invocation : Invocation) (environment : Environment) : Settings :=
  .load environment invocation.options.dialect
    (if invocation.options.validates then some true else none) (some "\n")

def Invocation.patcher (invocation : Invocation) (surroundings : Surroundings) : Patcher :=
  { settings := invocation.settings surroundings.environment
    validator := surroundings.validator }

/-- The queries of the content with what becomes of them. -/
def Invocation.entries (invocation : Invocation) (surroundings : Surroundings) (access : Access)
    (content : Text) : List (Statement × Text) :=
  CommandLine.entries (invocation.patcher surroundings) access.held access.connection?
    (Capture.statements content)

/-- What a verbose run says of the queries that change, while it patches them. -/
def progress (verbose : Bool) (entries : List (Statement × Text)) : Text :=
  if verbose then
    (entries.filter fun pair => pair.2 ≠ pair.1.text).flatMap fun pair =>
      line ("Query at line " ++ Text.ofNat pair.1.line ++ ": rewritten")
  else []

/-- All entries as they are written. -/
def output (entries : List (Statement × Text)) : Text := rendered (entries.map (·.2))

/-- The end of the reports: how many queries have changed, and where the output is. -/
def report (changed total : Nat) (path : Text) : Text :=
  line [] ++
    line ("Rewritten: " ++ Text.ofNat changed ++ "/" ++ Text.ofNat total ++ " queries") ++
    (if path = ['-'] then [] else line ("Output written to: " ++ path))

/-- Whether the text can be written as a whole. -/
def Storage.Takes (storage : Storage) (path content : Text) : Prop :=
  path = ['-'] ∨ ∃ place, storage.writable path = .ok place ∧ storage.breaks place content = none

namespace Outcome

/-- The output holds an entry for each query, in order. Only the lines of a verbose run can come
before them, on the standard output. -/
structure Fills (outcome : Outcome) (storage : Storage) (path : Text) (verbose : Bool)
    (entries : List (Statement × Text)) : Prop where
  printed : path = ['-'] → outcome.written = none ∧
    outcome.stdout = progress verbose entries ++ output entries
  filed : path ≠ ['-'] → outcome.stdout = progress verbose entries ∧
    ∃ place, storage.writable path = .ok place ∧ outcome.written = some (place, output entries)
  torn_eq_none : outcome.torn = none

/-- The output is filled, and the run has ended well. A notice can come before its report. -/
structure Delivers (outcome : Outcome) (storage : Storage) (path : Text) (verbose : Bool)
    (notice : Text) (entries : List (Statement × Text)) : Prop extends
    outcome.Fills storage path verbose entries where
  exit_eq_none : outcome.exit = none
  fault_eq_none : outcome.fault = none
  reported : outcome.stderr = notice ++ report (changes entries) entries.length path

/-- The file of the output has been opened, and holds the first bytes of the entries. -/
structure Tears (outcome : Outcome) (place : Text) (verbose : Bool) (fault : WriteFault)
    (entries : List (Statement × Text)) : Prop where
  written_eq_none : outcome.written = none
  torn_eq : outcome.torn = some (place, fault.bytes (output entries))
  stdout_eq : outcome.stdout = progress verbose entries

/-- The run has written no file, and has printed nothing where its output would be printed. -/
structure Withholds (outcome : Outcome) (options : Options) : Prop where
  written_eq_none : outcome.written = none
  torn_eq_none : outcome.torn = none
  stdout_eq_nil : options.output = some ['-'] → options.explains = false → outcome.stdout = []

/-- Nothing but what the run shows and where it ends differs. -/
structure SameOutput (first second : Outcome) : Prop where
  stdout_eq : first.stdout = second.stdout
  written_eq : first.written = second.written
  torn_eq : first.torn = second.torn

section SameOutput

variable {first second outcome : Outcome} {storage : Storage} {path place : Text} {verbose : Bool}
  {entries : List (Statement × Text)} {fault : WriteFault} {options : Options}

theorem Fills.of_same (h : second.Fills storage path verbose entries)
    (hSame : first.SameOutput second) : first.Fills storage path verbose entries where
  printed := by
    rw [hSame.written_eq, hSame.stdout_eq]
    exact h.printed
  filed := by
    rw [hSame.written_eq, hSame.stdout_eq]
    exact h.filed
  torn_eq_none := hSame.torn_eq.trans h.torn_eq_none

theorem Tears.of_same (h : second.Tears place verbose fault entries)
    (hSame : first.SameOutput second) : first.Tears place verbose fault entries :=
  ⟨hSame.written_eq.trans h.written_eq_none, hSame.torn_eq.trans h.torn_eq,
    hSame.stdout_eq.trans h.stdout_eq⟩

theorem Withholds.of_same (h : second.Withholds options) (hSame : first.SameOutput second) :
    first.Withholds options :=
  ⟨hSame.written_eq.trans h.written_eq_none, hSame.torn_eq.trans h.torn_eq_none,
    fun hDash hOff => hSame.stdout_eq.trans (h.stdout_eq_nil hDash hOff)⟩

theorem SameOutput.symm (h : first.SameOutput second) : second.SameOutput first :=
  ⟨h.stdout_eq.symm, h.written_eq.symm, h.torn_eq.symm⟩

theorem SameOutput.trans {third : Outcome} (h : first.SameOutput second)
    (hNext : second.SameOutput third) : first.SameOutput third :=
  ⟨h.stdout_eq.trans hNext.stdout_eq, h.written_eq.trans hNext.written_eq,
    h.torn_eq.trans hNext.torn_eq⟩

theorem sameOutput_close (closing : Option Text) (outcome : Outcome) :
    (outcome.close closing).SameOutput outcome := by
  cases closing <;> exact ⟨rfl, rfl, rfl⟩

theorem sameOutput_conclude (summary : Text) (outcome : Outcome) :
    (outcome.conclude summary).SameOutput outcome := by
  rw [conclude]
  split <;> exact ⟨rfl, rfl, rfl⟩

theorem sameOutput_shown (all : Bool) (outcome : Outcome) :
    (outcome.shown all).SameOutput outcome := ⟨rfl, rfl, rfl⟩

theorem Delivers.shown {notice : Text} (h : outcome.Delivers storage path verbose notice entries)
    (all : Bool) : (outcome.shown all).Delivers storage path verbose notice entries :=
  ⟨h.toFills.of_same (sameOutput_shown all outcome), h.exit_eq_none, h.fault_eq_none, h.reported⟩

end SameOutput

end Outcome

/-- There are queries to patch, and the output has a name. -/
structure Invocation.Rewrites (invocation : Invocation) (surroundings : Surroundings)
    (content path : Text) : Prop where
  text : surroundings.storage.text? invocation.input = .ok content
  statements : Capture.statements content ≠ []
  explains : invocation.options.explains = false
  output : invocation.options.output = some path

/-- The run has entries to write. -/
structure Invocation.Ready (invocation : Invocation) (surroundings : Surroundings) (content : Text)
    (access : Access) (path : Text) : Prop extends
    invocation.Rewrites surroundings content path where
  access : Access.obtain invocation.options surroundings = .ok access

section results

variable {results : List Result} {entries : List (Statement × Text)}

theorem map_text_of_entries
    (h : results.map (fun result => (result.statement, result.text)) = entries) :
    results.map (·.text) = entries.map (·.2) := by
  rw [← h, List.map_map]
  rfl

theorem summary_of_entries
    (h : results.map (fun result => (result.statement, result.text)) = entries) (path : Text) :
    summary path results = report (changes entries) entries.length path := by
  rw [← h, changes, List.countP_map, List.length_map]
  rfl

theorem progress_of_entries
    (h : results.map (fun result => (result.statement, result.text)) = entries) (verbose : Bool) :
    (if verbose then (results.filter (·.isChanged)).flatMap (fun result => line result.progress)
      else []) = progress verbose entries := by
  rw [← h, progress, List.filter_map, List.flatMap_map]
  rfl

end results

def unreachable (database : Database) (message : Text) : Text :=
  line ("ERROR: Cannot connect to " ++ database.host ++ ":" ++ Text.ofInt database.tcpPort ++ "/" ++
    database.database ++ ": " ++ message)

namespace Outcome

/-- All queries are patched, and nothing is written yet. -/
structure Starts (outcome : Outcome) (verbose : Bool) (notice : Text)
    (entries : List (Statement × Text)) : Prop where
  exit_eq_none : outcome.exit = none
  fault_eq_none : outcome.fault = none
  written_eq_none : outcome.written = none
  torn_eq_none : outcome.torn = none
  stdout_eq : outcome.stdout = progress verbose entries
  stderr_eq : outcome.stderr = notice

/-- The end of a run that has patched all its queries. -/
def finish (start : Outcome) (storage : Storage) (named : Option Text) (access : Access)
    (entries : List (Statement × Text)) : Outcome :=
  match named with
  | none => { start with fault := some .outputNotNamed }.close access.closing
  | some path =>
    ((deliver path storage (output entries) start).close access.closing).conclude
      (report (changes entries) entries.length path)

/-- How a run ends that has entries to write. A connection that cannot be closed is what it ends
with, whatever has become of the output. -/
structure Ends (outcome : Outcome) (options : Options) (storage : Storage) (path : Text)
    (access : Access) (entries : List (Statement × Text)) : Prop where
  fills : storage.Takes path (output entries) →
    outcome.Fills storage path options.verbose entries
  delivers : storage.Takes path (output entries) → access.closing = none →
    outcome.Delivers storage path options.verbose access.stderr entries
  tears : ∀ place fault, path ≠ ['-'] → storage.writable path = .ok place →
    storage.breaks place (output entries) = some fault →
      outcome.Tears place options.verbose fault entries ∧
        (access.closing = none → outcome.exit = some 1)
  /-- A path with a null in it is refused before it is opened, so no exit code is given for it. -/
  withholds : ∀ fault, path ≠ ['-'] → storage.writable path = .error fault →
    outcome.Withholds options ∧ (access.closing = none → fault ≠ .nul → outcome.exit = some 1)
  unclosed : ∀ message, access.closing = some message →
    outcome.exit = none ∧ outcome.fault = some (.connectionFailed message)

section Ends

variable {outcome start : Outcome} {storage : Storage} {path place : Text}
  {verbose : Bool} {notice : Text} {entries : List (Statement × Text)} {options : Options}
  {access : Access}

@[simp] theorem exit_conclude (summary : Text) (outcome : Outcome) :
    (outcome.conclude summary).exit = outcome.exit := by
  rw [conclude]
  split <;> rfl

@[simp] theorem fault_conclude (summary : Text) (outcome : Outcome) :
    (outcome.conclude summary).fault = outcome.fault := by
  rw [conclude]
  split <;> rfl

theorem sameOutput_finish (start : Outcome) (storage : Storage) (path : Text) (access : Access)
    (entries : List (Statement × Text)) :
    (start.finish storage (some path) access entries).SameOutput
      (deliver path storage (output entries) start) :=
  (sameOutput_conclude _ _).trans (sameOutput_close access.closing _)

theorem Starts.fills_deliver (h : start.Starts verbose notice entries)
    (hTakes : storage.Takes path (output entries)) :
    (deliver path storage (output entries) start).Fills storage path verbose entries ∧
      (deliver path storage (output entries) start).exit = none ∧
      (deliver path storage (output entries) start).fault = none ∧
      (deliver path storage (output entries) start).stderr = notice := by
  by_cases hDash : path = ['-']
  · rw [deliver, if_pos hDash]
    exact ⟨⟨fun _ => ⟨h.written_eq_none, congrArg (· ++ _) h.stdout_eq⟩,
      fun hFile => absurd hDash hFile, h.torn_eq_none⟩, h.exit_eq_none, h.fault_eq_none,
      h.stderr_eq⟩
  · obtain ⟨place, hPlace, hWhole⟩ := hTakes.resolve_left hDash
    simp only [deliver, if_neg hDash, hPlace, hWhole]
    exact ⟨⟨fun hSame => absurd hSame hDash, fun _ => ⟨h.stdout_eq, place, hPlace, rfl⟩,
      h.torn_eq_none⟩, h.exit_eq_none, h.fault_eq_none, h.stderr_eq⟩

theorem Starts.tears_deliver {fault : WriteFault} (h : start.Starts verbose notice entries)
    (hDash : path ≠ ['-']) (hPlace : storage.writable path = .ok place)
    (hBreaks : storage.breaks place (output entries) = some fault) :
    (deliver path storage (output entries) start).Tears place verbose fault entries ∧
      (deliver path storage (output entries) start).exit = some 1 := by
  rw [deliver, if_neg hDash, hPlace]
  dsimp only
  rw [hBreaks]
  exact ⟨⟨h.written_eq_none, rfl, h.stdout_eq⟩, rfl⟩

theorem Starts.withholds_deliver {fault : PathFault} (h : start.Starts verbose notice entries)
    (hOutput : options.output = some path) (hDash : path ≠ ['-'])
    (hPlace : storage.writable path = .error fault) :
    (deliver path storage (output entries) start).Withholds options ∧
      (fault ≠ .nul → (deliver path storage (output entries) start).exit = some 1) := by
  have hNever : options.output ≠ some ['-'] := by
    rw [hOutput]
    exact fun hSame => hDash (Option.some.inj hSame)
  simp only [deliver, if_neg hDash, hPlace]
  cases fault with
  | nul => exact ⟨⟨h.written_eq_none, h.torn_eq_none, fun hSame => absurd hSame hNever⟩,
      fun hNul => absurd rfl hNul⟩
  | missing | notDirectory | isDirectory | nameTooLong | other =>
    exact ⟨⟨h.written_eq_none, h.torn_eq_none, fun hSame => absurd hSame hNever⟩, fun _ => rfl⟩

theorem Starts.ends (h : start.Starts options.verbose access.stderr entries)
    (hOutput : options.output = some path) (storage : Storage) :
    (start.finish storage (some path) access entries).Ends options storage path access entries := by
  have hSame := sameOutput_finish start storage path access entries
  have hExit (hClosing : access.closing = none) {code : Nat}
      (hCode : (deliver path storage (output entries) start).exit = some code) :
      (start.finish storage (some path) access entries).exit = some code := by
    rw [finish, exit_conclude, hClosing]
    exact hCode
  refine ⟨fun hTakes => (h.fills_deliver hTakes).1.of_same hSame, fun hTakes hClosing => ?_,
    fun place fault hDash hPlace hBreaks => ?_, fun fault hDash hPlace => ?_,
    fun message hClosing => ?_⟩
  · obtain ⟨hFills, hNone, hFault, hStderr⟩ := h.fills_deliver hTakes
    refine ⟨hFills.of_same hSame, ?_, ?_, ?_⟩
    · rw [finish, exit_conclude, hClosing]
      exact hNone
    · rw [finish, fault_conclude, hClosing]
      exact hFault
    · rw [finish, hClosing, close, conclude, if_pos ⟨hNone, hFault⟩]
      exact congrArg (· ++ _) hStderr
  · obtain ⟨hTears, hCode⟩ := h.tears_deliver hDash hPlace hBreaks
    exact ⟨hTears.of_same hSame, fun hClosing => hExit hClosing hCode⟩
  · obtain ⟨hWithholds, hCode⟩ := h.withholds_deliver hOutput hDash hPlace
    exact ⟨hWithholds.of_same hSame, fun hClosing hNul => hExit hClosing (hCode hNul)⟩
  · rw [finish, exit_conclude, fault_conclude, hClosing]
    exact ⟨rfl, rfl⟩

theorem Ends.shown (h : outcome.Ends options storage path access entries) (all : Bool) :
    (outcome.shown all).Ends options storage path access entries := by
  have hSame := sameOutput_shown all outcome
  refine ⟨fun hTakes => (h.fills hTakes).of_same hSame,
    fun hTakes hClosing => (h.delivers hTakes hClosing).shown all,
    fun place fault hDash hPlace hBreaks => ?_, fun fault hDash hPlace => ?_, h.unclosed⟩
  · obtain ⟨hTears, hExit⟩ := h.tears place fault hDash hPlace hBreaks
    exact ⟨hTears.of_same hSame, hExit⟩
  · obtain ⟨hWithholds, hExit⟩ := h.withholds fault hDash hPlace
    exact ⟨hWithholds.of_same hSame, hExit⟩

end Ends

end Outcome

section obtain

variable {options : Options} {surroundings : Surroundings} {database : Database}

theorem obtain_of_not_loaded {fault : Fault} (hColumns : options.sketchColumns = [])
    (hDatabase : Database.load surroundings.environment = .error fault) :
    Access.obtain options surroundings = .error { fault := some fault } := by
  simp [Access.obtain, hColumns, hDatabase]

theorem obtain_of_connected {connection : Connection} (hColumns : options.sketchColumns = [])
    (hDatabase : Database.load surroundings.environment = .ok database)
    (hConnecting : surroundings.connecting = .ok connection) :
    Access.obtain options surroundings =
      .ok
        { held := none
          connection := some fun query => surroundings.change query connection
          closing := surroundings.closing
          connects := [database] } := by
  simp [Access.obtain, hColumns, hDatabase, hConnecting]

theorem obtain_of_not_connected {message : Text} (hColumns : options.sketchColumns = [])
    (hDatabase : Database.load surroundings.environment = .ok database)
    (hConnecting : surroundings.connecting = .error message) :
    Access.obtain options surroundings =
      if options.requiresDatabase then
        .error { exit := some 1, stderr := unreachable database message, connects := [database] }
      else
        .ok
          { held := some []
            connects := [database]
            stderr := unreachable database message } := by
  simp [Access.obtain, hColumns, hDatabase, hConnecting, unreachable]

end obtain

section patch

variable {options : Options} {settings : Settings} {surroundings : Surroundings}
  {statements : List Statement} {access : Access} {path : Text}

/-- What a run does besides patching its queries depends on their entries only. -/
theorem exists_patch_eq_finish (hAccess : Access.obtain options surroundings = .ok access)
    (hSeparator : settings.separator ≠ []) :
    let entries := CommandLine.entries { settings, validator := surroundings.validator }
      access.held access.connection? statements
    ∃ start : Outcome, start.Starts options.verbose access.stderr entries ∧
      patch options settings surroundings statements =
        start.finish surroundings.storage options.output access entries := by
  intro entries
  let results := patchAll { settings, validator := surroundings.validator } access.connection?
    access.held statements
  have hResults : results.map (fun result => (result.statement, result.text)) = entries :=
    map_entry_patchAll hSeparator
  refine ⟨{ stdout := progress options.verbose entries
            stderr := access.stderr
            connects := access.connects
            opened := access.connection.map fun _ => (usage results, 1)
            log := results.flatMap (·.patched.log)
            validated := results.flatMap (·.patched.validated) },
    ⟨rfl, rfl, rfl, rfl, rfl, rfl⟩, ?_⟩
  rw [patch, hAccess, ← progress_of_entries hResults]
  cases options.output with
  | none => rfl
  | some path =>
    rw [Outcome.finish, output, ← map_text_of_entries hResults, ← summary_of_entries hResults]

theorem ends_patch (hAccess : Access.obtain options surroundings = .ok access)
    (hOutput : options.output = some path) (hSeparator : settings.separator ≠ []) :
    (patch options settings surroundings statements).Ends options surroundings.storage path access
      (CommandLine.entries { settings, validator := surroundings.validator } access.held
        access.connection? statements) := by
  obtain ⟨start, hStarts, hPatch⟩ :=
    @exists_patch_eq_finish options settings surroundings statements access hAccess hSeparator
  rw [hPatch, hOutput]
  exact hStarts.ends hOutput surroundings.storage

theorem withholds_of_obtain {outcome : Outcome}
    (h : Access.obtain options surroundings = .error outcome) : outcome.Withholds options := by
  rw [Access.obtain] at h
  split at h
  · split at h
    · cases h
      exact ⟨rfl, rfl, fun _ _ => rfl⟩
    · split at h
      · cases h
      · dsimp only at h
        split at h
        · cases h
          exact ⟨rfl, rfl, fun _ _ => rfl⟩
        · cases h
  · split at h
    · cases h
    · cases h
      exact ⟨rfl, rfl, fun _ _ => rfl⟩

theorem withholds_patch
    (h : ∀ access path, Access.obtain options surroundings = .ok access →
      options.output ≠ some path) :
    (patch options settings surroundings statements).Withholds options := by
  cases hAccess : Access.obtain options surroundings with
  | error outcome =>
    simp only [patch, hAccess]
    exact withholds_of_obtain hAccess
  | ok access =>
    cases hOutput : options.output with
    | some path => exact absurd hOutput (h access path hAccess)
    | none =>
      have hNever : options.output ≠ some ['-'] := h access ['-'] hAccess
      simp only [patch, hAccess, hOutput]
      exact Outcome.Withholds.of_same ⟨rfl, rfl, fun hDash => absurd hDash hNever⟩
        (Outcome.sameOutput_close access.closing _)

end patch

section invoke

variable {invocation : Invocation} {surroundings : Surroundings} {content : Text}

theorem invoke_of_explains (hText : surroundings.storage.text? invocation.input = .ok content)
    (hStatements : Capture.statements content ≠ [])
    (hExplains : invocation.options.explains = true) :
    invoke invocation surroundings =
      (explain (invocation.settings surroundings.environment) (Capture.statements content)).shown
        invocation.options.verbose := by
  rw [invoke, hText]
  dsimp only
  split
  · rename_i hNone
    exact absurd hNone hStatements
  · rw [if_pos hExplains]
    rfl

theorem invoke_of_rewrites (hText : surroundings.storage.text? invocation.input = .ok content)
    (hStatements : Capture.statements content ≠ [])
    (hExplains : invocation.options.explains = false) :
    invoke invocation surroundings =
      (patch invocation.options (invocation.settings surroundings.environment) surroundings
        (Capture.statements content)).shown invocation.options.verbose := by
  rw [invoke, hText]
  dsimp only
  split
  · rename_i hNone
    exact absurd hNone hStatements
  · rw [hExplains]
    rfl

theorem invoke_of_no_statements (hText : surroundings.storage.text? invocation.input = .ok content)
    (hStatements : Capture.statements content = []) :
    invoke invocation surroundings =
      { exit := some 0, stderr := line ("WARNING: No queries found in " ++ invocation.input) } := by
  rw [invoke, hText]
  dsimp only
  rw [hStatements]

theorem invoke_of_unreadable {fault : InputFault}
    (hText : surroundings.storage.text? invocation.input = .error fault) :
    invoke invocation surroundings =
      { exit := some 1, stderr := line (fault.message invocation.input) } := by
  rw [invoke, hText]

theorem ends_invoke {access : Access} {path : Text}
    (h : invocation.Ready surroundings content access path) :
    (invoke invocation surroundings).Ends invocation.options surroundings.storage path access
      (invocation.entries surroundings access content) := by
  rw [invoke_of_rewrites h.text h.statements h.explains]
  exact (ends_patch h.access h.output (List.cons_ne_nil '\n' [])).shown invocation.options.verbose

theorem withholds_invoke
    (h : ∀ content access path, ¬ invocation.Ready surroundings content access path) :
    (invoke invocation surroundings).Withholds invocation.options := by
  cases hText : surroundings.storage.text? invocation.input with
  | error fault =>
    rw [invoke_of_unreadable hText]
    exact ⟨rfl, rfl, fun _ _ => rfl⟩
  | ok content =>
    by_cases hStatements : Capture.statements content = []
    · rw [invoke_of_no_statements hText hStatements]
      exact ⟨rfl, rfl, fun _ _ => rfl⟩
    cases hExplains : invocation.options.explains with
    | true =>
      rw [invoke_of_explains hText hStatements hExplains]
      refine ⟨rfl, rfl, fun _ hOff => ?_⟩
      rw [hExplains] at hOff
      cases hOff
    | false =>
      rw [invoke_of_rewrites hText hStatements hExplains]
      exact (withholds_patch fun access path hAccess hOutput =>
        h content access path ⟨⟨hText, hStatements, hExplains, hOutput⟩, hAccess⟩).of_same
          (Outcome.sameOutput_shown invocation.options.verbose _)

end invoke

theorem run_of_invocation {arguments : List Text} {invocation : Invocation}
    (h : Arguments.ofList arguments = .invocation invocation) (surroundings : Surroundings) :
    run arguments surroundings = invoke invocation surroundings := by
  rw [run, h]

section sum

def sumStorage : Storage :=
  Files.storage [("in.sql", .file (encodeUtf8 (join "\n" Patcher.sumOfSketch)))]

def sumPatched : Text := join "\n" (Patcher.sumOfSketch.set 1 (cardinalityLine "t" "v" "m" false))

theorem pieces_of_name {name : Text} (h : '/' ∉ name) : pieces '/' [] name = [name] :=
  pieces_of_not_infix fun hInfix => h (hInfix.subset List.mem_cons_self)

theorem read?_inputFile (bytes : List UInt8) :
    Files.read? [("in.sql", .file bytes)] "in.sql" = .ok bytes := by
  have hNames : pieces '/' [] "in.sql" = ["in.sql".toList] := pieces_of_name (by decide)
  simp only [Files.read?, Files.approach, hNames]
  rfl

theorem writable?_outputFile (bytes : List UInt8) :
    Files.writable? [("in.sql", .file bytes)] "out.sql" = .ok "out.sql".toList := by
  have hNames : pieces '/' [] "out.sql" = ["out.sql".toList] := pieces_of_name (by decide)
  simp only [Files.writable?, Files.approach, hNames]
  rfl

theorem text?_inputFile (content : Text) :
    (Files.storage [("in.sql", .file (encodeUtf8 content))]).text? "in.sql" =
      .ok (unifyNewlines content) := by
  simp only [Storage.text?, Files.storage, read?_inputFile, decodeUtf8_encodeUtf8]

theorem text?_sumStorage : sumStorage.text? "in.sql" = .ok (join "\n" Patcher.sumOfSketch) :=
  text?_inputFile _

theorem statements_sumOfSketch : Capture.statements (join "\n" Patcher.sumOfSketch) =
    [⟨1, join "\n" Patcher.sumOfSketch⟩] :=
  statements_of_all (by decide) rfl

theorem rewrites_sumStorage {options : Options} {surroundings : Surroundings} {path : Text}
    (hStorage : surroundings.storage.read = sumStorage.read) (hExplains : options.explains = false)
    (hOutput : options.output = some path) :
    (⟨"in.sql", options⟩ : Invocation).Rewrites surroundings (join "\n" Patcher.sumOfSketch)
      path where
  text := by
    rw [← text?_sumStorage, Storage.text?, hStorage]
    rfl
  statements := by
    rw [statements_sumOfSketch]
    exact List.cons_ne_nil _ _
  explains := hExplains
  output := hOutput

theorem entry_sumOfSketch {patcher : Patcher} (hRules : patcher.rules = Rule.standard)
    (hValidates : patcher.settings.validates = false)
    (hSeparator : patcher.settings.separator = "\n".toList) (number : Nat) :
    entry patcher ["s.b.v"] ⟨number, join "\n" Patcher.sumOfSketch⟩ = sumPatched := by
  have hSplit : split patcher.settings.separator (join "\n" Patcher.sumOfSketch) =
      some Patcher.sumOfSketch := by
    rw [hSeparator]
    exact (split_eq_some_iff (by decide)).mpr ⟨Cut.of_not_mem (by decide) (by decide), rfl⟩
  rw [entry, Result.text, Patcher.answer_patch_standard hRules hValidates hSplit, hSeparator]
  rfl

end sum

end QueryPatch.CommandLine
