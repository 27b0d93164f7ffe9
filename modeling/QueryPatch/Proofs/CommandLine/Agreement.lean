import QueryPatch.Proofs.Catalog.Names
import QueryPatch.Proofs.CommandLine.ColumnArguments
import QueryPatch.Proofs.CommandLine.Degradation
import QueryPatch.Proofs.Session.Decision

/-! # Columns given and columns read

A run that is given its columns ends like a run that reads them from the catalog, whatever the file
holds. A run that cannot read them passes all queries.
-/
set_option autoImplicit false

namespace QueryPatch

open Text

namespace CommandLine

/-- Two runs end alike and write the same. What they did on a connection may differ. -/
structure Outcome.Agrees (first second : Outcome) : Prop extends first.SameOutput second where
  exit_eq : first.exit = second.exit
  fault_eq : first.fault = second.fault
  stderr_eq : first.stderr = second.stderr

namespace Outcome

theorem SameOutput.shown {first second : Outcome} (h : first.SameOutput second) (all : Bool) :
    (first.shown all).SameOutput (second.shown all) := ⟨h.stdout_eq, h.written_eq, h.torn_eq⟩

namespace Agrees

variable {first second : Outcome}

theorem refl (outcome : Outcome) : outcome.Agrees outcome := ⟨⟨rfl, rfl, rfl⟩, rfl, rfl, rfl⟩

theorem shown (h : first.Agrees second) (all : Bool) :
    (first.shown all).Agrees (second.shown all) :=
  ⟨h.toSameOutput.shown all, h.exit_eq, h.fault_eq, h.stderr_eq⟩

theorem deliver (h : first.Agrees second) (path : Text) (storage : Storage) (content : Text) :
    (CommandLine.deliver path storage content first).Agrees
      (CommandLine.deliver path storage content second) := by
  obtain ⟨⟨hStdout, hWritten, hTorn⟩, hExit, hFault, hStderr⟩ := h
  simp only [CommandLine.deliver]
  split
  · exact ⟨⟨congrArg (· ++ _) hStdout, hWritten, hTorn⟩, hExit, hFault, hStderr⟩
  · split
    · exact ⟨⟨hStdout, hWritten, hTorn⟩, hExit, rfl, hStderr⟩
    · exact ⟨⟨hStdout, hWritten, hTorn⟩, rfl, hFault, congrArg (· ++ _ ++ _) hStderr⟩
    · split
      · exact ⟨⟨hStdout, rfl, hTorn⟩, hExit, hFault, hStderr⟩
      · exact ⟨⟨hStdout, hWritten, rfl⟩, rfl, hFault, congrArg (· ++ _ ++ _) hStderr⟩

theorem close (h : first.Agrees second) (closing : Option Text) :
    (first.close closing).Agrees (second.close closing) := by
  cases closing with
  | none => exact h
  | some message => exact ⟨⟨h.stdout_eq, h.written_eq, h.torn_eq⟩, rfl, rfl, h.stderr_eq⟩

theorem conclude (h : first.Agrees second) (summary : Text) :
    (first.conclude summary).Agrees (second.conclude summary) := by
  by_cases hWell : first.exit = none ∧ first.fault = none
  · have hOther : second.exit = none ∧ second.fault = none := h.exit_eq ▸ h.fault_eq ▸ hWell
    rw [Outcome.conclude, if_pos hWell, Outcome.conclude, if_pos hOther]
    exact ⟨⟨h.stdout_eq, h.written_eq, h.torn_eq⟩, h.exit_eq, h.fault_eq,
      congrArg (· ++ _) h.stderr_eq⟩
  · have hOther : ¬ (second.exit = none ∧ second.fault = none) := h.exit_eq ▸ h.fault_eq ▸ hWell
    rw [Outcome.conclude, if_neg hWell, Outcome.conclude, if_neg hOther]
    exact h

theorem of_starts {verbose : Bool} {notice : Text} {entries : List (Statement × Text)}
    (hFirst : first.Starts verbose notice entries)
    (hSecond : second.Starts verbose notice entries) : first.Agrees second :=
  ⟨⟨hFirst.stdout_eq.trans hSecond.stdout_eq.symm,
      hFirst.written_eq_none.trans hSecond.written_eq_none.symm,
      hFirst.torn_eq_none.trans hSecond.torn_eq_none.symm⟩,
    hFirst.exit_eq_none.trans hSecond.exit_eq_none.symm,
    hFirst.fault_eq_none.trans hSecond.fault_eq_none.symm,
    hFirst.stderr_eq.trans hSecond.stderr_eq.symm⟩

/-- Whether the connections can be closed shows only in how the runs end. -/
theorem finish (h : first.Agrees second) (storage : Storage) (named : Option Text)
    (access other : Access) (entries : List (Statement × Text)) :
    (first.finish storage named access entries).SameOutput
        (second.finish storage named other entries) ∧
      (access.closing = other.closing →
        (first.finish storage named access entries).Agrees
          (second.finish storage named other entries)) := by
  cases named with
  | none =>
    have hNamed : ({ first with fault := some .outputNotNamed } : Outcome).Agrees
        { second with fault := some .outputNotNamed } :=
      ⟨⟨h.stdout_eq, h.written_eq, h.torn_eq⟩, h.exit_eq, rfl, h.stderr_eq⟩
    refine ⟨(sameOutput_close access.closing _).trans
      (hNamed.toSameOutput.trans (sameOutput_close other.closing _).symm), fun hClosing => ?_⟩
    rw [Outcome.finish, Outcome.finish, hClosing]
    exact hNamed.close other.closing
  | some path =>
    have hDeliver := h.deliver path storage (output entries)
    refine ⟨(sameOutput_finish first storage path access entries).trans
      (hDeliver.toSameOutput.trans (sameOutput_finish second storage path other entries).symm),
      fun hClosing => ?_⟩
    rw [Outcome.finish, Outcome.finish, hClosing]
    exact (hDeliver.close other.closing).conclude _

end Agrees

end Outcome

section invoke

variable {invocation : Invocation} {surroundings : Surroundings} {connection : Connection}
  {database : Database} {names rowNames : List Text}

theorem obtain_withColumns (hColumns : invocation.options.sketchColumns = [])
    (hNames : names ≠ []) :
    Access.obtain (invocation.withColumns (names.map some)).options surroundings =
      .ok { held := some (.ofList (names.map lowercase)) } := by
  have hOptions : (invocation.withColumns (names.map some)).options.sketchColumns =
      names.map some := by
    rw [Invocation.withColumns, Options.withColumns, hColumns, List.append_nil]
  have hGiven : (names.map some).isEmpty = false := by
    cases names with
    | nil => exact absurd rfl hNames
    | cons => rfl
  have hSeed := Seed.columns?_eq_ok_iff.mpr ⟨names, .items names, rfl⟩
  rw [Access.obtain, hOptions, hGiven, hSeed]
  rfl

/-- The set that is given and the one read from the catalog need not list their keys alike. -/
theorem entries_of_sameNames {patcher : Patcher} (asked : Nat → Option Connection)
    {statements : List Statement} (hRules : patcher.rules = Rule.standard)
    (hSeparator : patcher.settings.separator ≠ []) (hFirst : asked 0 = some connection)
    (hAnswers : connection.Answers rowNames) (hSame : SameNames names rowNames)
    (connection' : Nat → Option Connection) :
    entries patcher (some (.ofList (names.map lowercase))) connection' statements =
      entries patcher none asked statements := by
  have hColumnsSame := ColumnSet.same_of_names (ColumnSet.ofNames_ofList names)
    (ColumnSet.ofNames_ofList rowNames) hSame
  have hEntry : entry patcher (.ofList (names.map lowercase)) =
      entry patcher (.ofList (rowNames.map lowercase)) :=
    funext fun statement => entry_congr fun candidate =>
      hColumnsSame.accepts_iff hRules hSeparator statement.text candidate
  have hRead (query : Nat) : columnsAt patcher.settings.sketchType none asked query =
      .ofList (rowNames.map lowercase) :=
    columnsAt_of_answers hFirst hAnswers
      (fun earlier hEarlier => absurd hEarlier earlier.not_lt_zero) query.zero_le
  rw [entries_of_columns fun _ => columnsAt_of_held _, entries_of_columns hRead, hEntry]

theorem agrees_patch (hColumns : invocation.options.sketchColumns = []) (hNames : names ≠ [])
    (hDatabase : Database.load surroundings.environment = .ok database)
    (hConnecting : surroundings.connecting = .ok connection)
    (hAnswers : (surroundings.change 0 connection).Answers rowNames)
    (hSame : SameNames names rowNames) (connecting : Except Text Connection) {settings : Settings}
    (hSeparator : settings.separator ≠ []) (statements : List Statement) :
    let offline := patch (invocation.withColumns (names.map some)).options settings
      { surroundings with connecting } statements
    let online := patch invocation.options settings surroundings statements
    offline.SameOutput online ∧ (surroundings.closing = none → offline.Agrees online) := by
  have hAccess : Access.obtain (invocation.withColumns (names.map some)).options
      { surroundings with connecting } = _ := obtain_withColumns hColumns hNames
  obtain ⟨first, hFirst, hPatch⟩ :=
    @exists_patch_eq_finish _ settings _ statements _ hAccess hSeparator
  obtain ⟨second, hSecond, hPatch'⟩ := @exists_patch_eq_finish _ settings _ statements _
    (obtain_of_connected hColumns hDatabase hConnecting) hSeparator
  dsimp only at hFirst hPatch
  rw [entries_of_sameNames (fun query => some (surroundings.change query connection)) rfl hSeparator
    rfl hAnswers hSame] at hFirst hPatch
  rw [hPatch, hPatch']
  obtain ⟨hSame, hAgrees⟩ := (Outcome.Agrees.of_starts hFirst hSecond).finish
    surroundings.storage invocation.options.output _ _ _
  exact ⟨hSame, fun hClosing => hAgrees hClosing.symm⟩

/-- Only what patching comes to can tell two runs apart that are set alike otherwise. -/
theorem invoke_eq_or_exists_patch {other : Invocation} {elsewhere : Surroundings}
    (hStorage : elsewhere.storage = surroundings.storage) (hInput : other.input = invocation.input)
    (hExplains : other.options.explains = invocation.options.explains)
    (hVerbose : other.options.verbose = invocation.options.verbose)
    (hSettings : other.settings elsewhere.environment =
      invocation.settings surroundings.environment) :
    invoke other elsewhere = invoke invocation surroundings ∨
      ∃ statements,
        invoke other elsewhere =
          (patch other.options (invocation.settings surroundings.environment) elsewhere
            statements).shown invocation.options.verbose ∧
        invoke invocation surroundings =
          (patch invocation.options (invocation.settings surroundings.environment) surroundings
            statements).shown invocation.options.verbose := by
  cases hText : surroundings.storage.text? invocation.input with
  | error fault =>
    have hOther := hText
    rw [← hStorage, ← hInput] at hOther
    rw [invoke_of_unreadable hText, invoke_of_unreadable hOther, hInput]
    exact .inl rfl
  | ok content =>
    have hOther := hText
    rw [← hStorage, ← hInput] at hOther
    by_cases hStatements : Capture.statements content = []
    · rw [invoke_of_no_statements hText hStatements, invoke_of_no_statements hOther hStatements,
        hInput]
      exact .inl rfl
    · cases hMode : invocation.options.explains with
      | true =>
        rw [invoke_of_explains hText hStatements hMode,
          invoke_of_explains hOther hStatements (hExplains.trans hMode), hSettings, hVerbose]
        exact .inl rfl
      | false =>
        rw [invoke_of_rewrites hText hStatements hMode,
          invoke_of_rewrites hOther hStatements (hExplains.trans hMode), hSettings, hVerbose]
        exact .inr ⟨_, rfl, rfl⟩

theorem agrees_invoke (hColumns : invocation.options.sketchColumns = []) (hNames : names ≠ [])
    (hDatabase : Database.load surroundings.environment = .ok database)
    (hConnecting : surroundings.connecting = .ok connection)
    (hAnswers : (surroundings.change 0 connection).Answers rowNames)
    (hSame : SameNames names rowNames) (connecting : Except Text Connection) :
    let offline :=
      invoke (invocation.withColumns (names.map some)) { surroundings with connecting }
    let online := invoke invocation surroundings
    offline.SameOutput online ∧ (surroundings.closing = none → offline.Agrees online) := by
  intro offline online
  rcases @invoke_eq_or_exists_patch invocation surroundings
      (invocation.withColumns (names.map some)) { surroundings with connecting } rfl rfl rfl rfl
      rfl with hEqual | ⟨statements, hOffline, hOnline⟩
  · have hRefl : offline.Agrees online := by
      rw [show offline = online from hEqual]
      exact .refl online
    exact ⟨hRefl.toSameOutput, fun _ => hRefl⟩
  · have hSeparator : (invocation.settings surroundings.environment).separator ≠ [] :=
      List.cons_ne_nil '\n' []
    obtain ⟨hOutput, hAgrees⟩ := agrees_patch hColumns hNames hDatabase hConnecting hAnswers hSame
      connecting hSeparator statements
    rw [show offline = _ from hOffline, show online = _ from hOnline]
    exact ⟨hOutput.shown _, fun hClosing => (hAgrees hClosing).shown _⟩

theorem passes_of_not_answered {content path : Text}
    (h : invocation.Rewrites surroundings content path)
    (hTakes : surroundings.storage.Takes path
      (rendered ((Capture.statements content).map (·.text))))
    (hColumns : invocation.options.sketchColumns = [])
    (hDatabase : Database.load surroundings.environment = .ok database)
    (hConnecting : surroundings.connecting = .ok connection)
    (hNone : ∀ query names, ¬ (surroundings.change query connection).Answers names) :
    (invoke invocation surroundings).Passes surroundings.storage path
        (Capture.statements content) ∧
      (surroundings.closing = none →
        (invoke invocation surroundings).PassesThrough surroundings.storage path []
          (Capture.statements content)) := by
  refine passes_invoke ⟨h, obtain_of_connected hColumns hDatabase hConnecting⟩ hTakes
    fun query => columnsAt_of_not_answers fun earlier _ asked hAsked => ?_
  obtain rfl := Option.some.inj hAsked
  exact hNone earlier

end invoke

/-- A run that is given columns agrees with one that reads them from the catalog, whatever the file
holds; any names but the mark can be given so. When the catalog is out of reach, or cannot be read,
all queries pass. -/
theorem run_agrees_of_sameNames (online : List Text) (invocation : Invocation)
    (surroundings : Surroundings) (database : Database)
    (hOnline : Arguments.ofList online = .invocation invocation)
    (hColumns : invocation.options.sketchColumns = [])
    (hDatabase : Database.load surroundings.environment = .ok database) :
    (∀ connection names rowNames, surroundings.connecting = .ok connection →
      (surroundings.change 0 connection).Answers rowNames → names ≠ [] →
      SameNames names rowNames →
      (∀ offline connecting,
        Arguments.ofList offline = .invocation (invocation.withColumns (names.map some)) →
        (run offline { surroundings with connecting }).SameOutput (run online surroundings) ∧
          (surroundings.closing = none →
            (run offline { surroundings with connecting }).Agrees (run online surroundings))) ∧
      (mark ∉ names → Arguments.ofList (names.map Arguments.columnArgument ++ online) =
        .invocation (invocation.withColumns (names.map some)))) ∧
    ((∃ message, surroundings.connecting = .error message ∧
        invocation.options.requiresDatabase = false) ∨
      (∃ connection, surroundings.connecting = .ok connection ∧
        ∀ query names, ¬ (surroundings.change query connection).Answers names) →
      ∀ content, surroundings.storage.text? invocation.input = .ok content →
        (Capture.statements content = [] →
          (run online surroundings).written = none ∧ (run online surroundings).torn = none ∧
            (run online surroundings).stdout = []) ∧
        ∀ path, invocation.Rewrites surroundings content path →
          surroundings.storage.Takes path
            (rendered ((Capture.statements content).map (·.text))) →
          (run online surroundings).Passes surroundings.storage path
              (Capture.statements content) ∧
            ((∀ connection, surroundings.connecting = .ok connection →
                surroundings.closing = none) →
              ∃ notice, (run online surroundings).PassesThrough surroundings.storage path notice
                (Capture.statements content))) := by
  rw [run_of_invocation hOnline]
  constructor
  · intro connection names rowNames hConnecting hAnswers hNames hSame
    refine ⟨fun offline connecting hOffline => ?_, Arguments.ofList_columns hOnline⟩
    rw [run_of_invocation hOffline]
    exact agrees_invoke hColumns hNames hDatabase hConnecting hAnswers hSame connecting
  · intro hCatalog content hText
    constructor
    · intro hStatements
      rw [invoke_of_no_statements hText hStatements]
      exact ⟨rfl, rfl, rfl⟩
    · intro path hRewrites hTakes
      rcases hCatalog with ⟨message, hConnecting, hRequires⟩ | ⟨connection, hConnecting, hNone⟩
      · have hPasses := passesThrough_of_not_connected hRewrites hTakes hColumns hRequires
          hDatabase hConnecting
        exact ⟨hPasses.toPasses, fun _ => ⟨_, hPasses⟩⟩
      · obtain ⟨hPasses, hWell⟩ := passes_of_not_answered hRewrites hTakes hColumns hDatabase
          hConnecting hNone
        exact ⟨hPasses, fun hClosing => ⟨[], hWell (hClosing connection hConnecting)⟩⟩

def catalogSurroundings (connection : Connection) : Surroundings :=
  { storage := sumStorage, connecting := .ok connection }

theorem run_agrees_of_sameNames_sumOfSketch :
    let rows : Connection := { rows := [.column "S.B.v", .column "s.b.V"] }
    let broken : Connection := { fetchFailure := some "gone" }
    Arguments.ofList ["in.sql".toList] = .invocation ⟨"in.sql", {}⟩ ∧
      rows.Answers ["S.B.v", "s.b.V"] ∧ SameNames ["s.b.v"] ["S.B.v", "s.b.V"] ∧
      mark ∉ ["s.b.v".toList] ∧
      (run ["--hll-column=s.b.v".toList, "in.sql".toList]
        { catalogSurroundings rows with connecting := .error [] }).Agrees
        (run ["in.sql".toList] (catalogSurroundings rows)) ∧
      (∀ names, ¬ broken.Answers names) ∧
      (run ["in.sql".toList] (catalogSurroundings broken)).stdout =
        rendered [join "\n" Patcher.sumOfSketch] := by
  intro rows broken
  have hArguments : Arguments.ofList ["in.sql".toList] = .invocation ⟨"in.sql", {}⟩ := by decide
  have hAnswers : rows.Answers ["S.B.v", "s.b.V"] := ⟨rfl, rfl, rfl, rfl, rfl⟩
  have hSmall : ["S.B.v".toList, "s.b.V".toList].map (·.map Char.toLower) =
      ["s.b.v".toList, "s.b.v".toList] := by
    decide
  have hSame : SameNames ["s.b.v"] ["S.B.v", "s.b.V"] := by
    intro key
    rw [hSmall, List.mem_cons, List.mem_singleton, or_self]
    exact List.mem_singleton
  have hMark : mark ∉ ["s.b.v".toList] := by decide
  have hBroken : ∀ names, ¬ broken.Answers names := fun names h => nomatch h.fetch
  have hRead := (run_agrees_of_sameNames _ _ (catalogSurroundings rows) {} hArguments rfl rfl).1
    rows _ _ rfl hAnswers (by decide) hSame
  obtain ⟨hPasses, -⟩ := ((run_agrees_of_sameNames _ _ (catalogSurroundings broken) {}
    hArguments rfl rfl).2 (.inr ⟨broken, rfl, fun _ => hBroken⟩) _ text?_sumStorage).2
      "-" (rewrites_sumStorage rfl rfl rfl) (.inl rfl)
  refine ⟨hArguments, hAnswers, hSame, hMark, (hRead.1 _ _ (hRead.2 hMark)).2 rfl, hBroken, ?_⟩
  rw [(hPasses.printed rfl).2, statements_sumOfSketch]
  rfl

/-- The mark cannot be given as a name, though a row can hold it. -/
theorem run_markColumn :
    let rows : Connection := { rows := [.column "--"] }
    Arguments.ofList ["in.sql".toList] = .invocation ⟨"in.sql", {}⟩ ∧
      Arguments.ofList ["in.sql".toList, "--hll-column=--".toList] =
        .invocation ⟨"in.sql", { sketchColumns := [none] }⟩ ∧
      rows.Answers ["--"] ∧ SameNames ["--"] ["--"] ∧
      (run ["in.sql".toList, "--hll-column=--".toList] (catalogSurroundings rows)).fault =
        some .columnNotText ∧
      (run ["in.sql".toList] (catalogSurroundings rows)).fault = none ∧
      ¬ (run ["in.sql".toList, "--hll-column=--".toList] (catalogSurroundings rows)).Agrees
        (run ["in.sql".toList] (catalogSurroundings rows)) := by
  intro rows
  have hOnline : Arguments.ofList ["in.sql".toList] = .invocation ⟨"in.sql", {}⟩ := by decide
  have hOffline : Arguments.ofList ["in.sql".toList, "--hll-column=--".toList] =
      .invocation ⟨"in.sql", { sketchColumns := [none] }⟩ := by
    decide
  have hLoad : Database.load (catalogSurroundings rows).environment = .ok {} := rfl
  have hRewrites : (⟨"in.sql", {}⟩ : Invocation).Rewrites (catalogSurroundings rows)
      (join "\n" Patcher.sumOfSketch) "-" :=
    rewrites_sumStorage rfl rfl rfl
  have hFault : (run ["in.sql".toList, "--hll-column=--".toList]
      (catalogSurroundings rows)).fault = some .columnNotText := by
    rw [run_of_invocation hOffline, invoke_of_rewrites text?_sumStorage hRewrites.statements rfl]
    rfl
  have hNone : (run ["in.sql".toList] (catalogSurroundings rows)).fault = none := by
    have hEnds := ends_invoke ⟨hRewrites, obtain_of_connected rfl hLoad rfl⟩
    rw [run_of_invocation hOnline]
    exact (hEnds.delivers (.inl rfl) rfl).fault_eq_none
  refine ⟨hOnline, hOffline, ⟨rfl, rfl, rfl, rfl, rfl⟩, fun key => Iff.rfl, hFault, hNone,
    fun hAgrees => ?_⟩
  have hSame := hAgrees.fault_eq
  rw [hFault, hNone] at hSame
  cases hSame

end CommandLine

end QueryPatch
