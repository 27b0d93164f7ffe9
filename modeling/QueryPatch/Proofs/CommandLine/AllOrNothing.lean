import QueryPatch.Proofs.CommandLine.Delivery

/-! # All or nothing

The output of a run holds an entry for every query of its input, in order, or it is not written at
all; only a file that is opened and then does not take all of it holds a part. The entry of a query
is what patching makes of that query by itself, with the columns that are known by then.
-/
set_option autoImplicit false

namespace QueryPatch.CommandLine

open Text

theorem run_of_not_invocation {arguments : List Text}
    (h : ∀ invocation, Arguments.ofList arguments ≠ .invocation invocation)
    (surroundings : Surroundings) :
    (run arguments surroundings).written = none ∧ (run arguments surroundings).torn = none ∧
      (run arguments surroundings).exit ≠ none := by
  rw [run]
  split
  · rename_i invocation hArguments
    exact absurd hArguments (h invocation)
  · exact ⟨rfl, rfl, Option.some_ne_none _⟩
  · exact ⟨rfl, rfl, Option.some_ne_none _⟩

section exits

variable {invocation : Invocation} {surroundings : Surroundings} {content : Text}

theorem exit_of_not_connected {message : Text} {database : Database}
    (hText : surroundings.storage.text? invocation.input = .ok content)
    (hStatements : Capture.statements content ≠ [])
    (hExplains : invocation.options.explains = false)
    (hColumns : invocation.options.sketchColumns = [])
    (hDatabase : Database.load surroundings.environment = .ok database)
    (hConnecting : surroundings.connecting = .error message)
    (hRequires : invocation.options.requiresDatabase = true) :
    (invoke invocation surroundings).exit = some 1 := by
  have hAccess := obtain_of_not_connected hColumns hDatabase hConnecting
  rw [if_pos hRequires] at hAccess
  rw [invoke_of_rewrites hText hStatements hExplains]
  simp only [patch, hAccess, Outcome.shown]

end exits

/-- A run that has entries to write delivers them all, in the order of the queries, unless the
output cannot be opened, where nothing is written, or breaks off, where the file holds the first
bytes of them. The others write nothing: the input cannot be read, has no query, the required
database cannot be reached, or explanations take the place of the output. What happens to one query,
be it that the catalog cannot be read or that another text is accepted, leaves the entries of the
others alone. -/
theorem run_delivers_tears_or_withholds (arguments : List Text) (surroundings : Surroundings) :
    ((∀ invocation, Arguments.ofList arguments ≠ .invocation invocation) →
      (run arguments surroundings).written = none ∧ (run arguments surroundings).torn = none ∧
        (run arguments surroundings).exit ≠ none) ∧
    ∀ invocation, Arguments.ofList arguments = .invocation invocation →
      (∀ content access path, invocation.Ready surroundings content access path →
        let entries := invocation.entries surroundings access content
        (run arguments surroundings).Ends invocation.options surroundings.storage path access
          entries ∧
        entries.map (·.1) = Capture.statements content ∧
        ∀ before statement after, Capture.statements content = before ++ statement :: after →
          ((access.held = none → ∀ asked, access.connection? before.length = some asked →
              ∀ names, ¬ asked.Answers names) →
            ∃ earlier text later, entries = earlier ++ (statement, text) :: later ∧
              earlier.map (·.1) = before ∧
              CommandLine.entries (invocation.patcher surroundings) access.held
                (skipping before.length access.connection?) (before ++ after) =
                  earlier ++ later) ∧
          ∀ validator,
            (∀ beside ∈ before ++ after, ∀ columns candidate,
              (invocation.patcher surroundings).Accepts columns
                  (.text beside.text : Source Empty) candidate ↔
                (invocation.patcher { surroundings with validator }).Accepts columns
                  (.text beside.text : Source Empty) candidate) →
            ∃ earlier text text' later, entries = earlier ++ (statement, text) :: later ∧
              earlier.map (·.1) = before ∧
              invocation.entries { surroundings with validator } access content =
                earlier ++ (statement, text') :: later) ∧
      ((∀ content access path, ¬ invocation.Ready surroundings content access path) →
        (run arguments surroundings).Withholds invocation.options) ∧
      (∀ fault, surroundings.storage.text? invocation.input = .error fault →
        (run arguments surroundings).Withholds invocation.options ∧
          (run arguments surroundings).exit = some 1) ∧
      ∀ content, surroundings.storage.text? invocation.input = .ok content →
        (Capture.statements content = [] →
          (run arguments surroundings).Withholds invocation.options ∧
            (run arguments surroundings).exit = some 0) ∧
        (Capture.statements content ≠ [] → invocation.options.explains = true →
          (run arguments surroundings).Withholds invocation.options ∧
            (run arguments surroundings).stdout =
              (Capture.statements content).flatMap fun statement =>
                (explanation (invocation.settings surroundings.environment) statement).1) ∧
        (Capture.statements content ≠ [] → invocation.options.explains = false →
          ∀ message database, invocation.options.sketchColumns = [] →
            Database.load surroundings.environment = .ok database →
            surroundings.connecting = .error message →
            invocation.options.requiresDatabase = true →
            (run arguments surroundings).Withholds invocation.options ∧
              (run arguments surroundings).exit = some 1) := by
  refine ⟨fun hNone => run_of_not_invocation hNone surroundings, fun invocation hArguments => ?_⟩
  rw [run_of_invocation hArguments]
  refine ⟨fun content access path hReady => ⟨ends_invoke hReady, map_fst_entries, ?_⟩,
    withholds_invoke, ?_, ?_⟩
  · intro before statement after hStatements
    simp only [Invocation.entries, hStatements]
    exact ⟨entries_skipping, fun validator hAlike => entries_of_accepts_alike rfl hAlike⟩
  · intro fault hText
    refine ⟨withholds_invoke fun content access path hReady => ?_, ?_⟩
    · cases hText.symm.trans hReady.text
    · rw [invoke_of_unreadable hText]
  intro content hText
  refine ⟨fun hStatements => ⟨?_, ?_⟩, fun hStatements hExplains => ⟨?_, ?_⟩,
    fun hStatements hExplains message database hColumns hDatabase hConnecting hRequires =>
      ⟨?_, ?_⟩⟩
  · refine withholds_invoke fun other access path hReady => hReady.statements ?_
    obtain rfl : other = content := Except.ok.inj (hReady.text.symm.trans hText)
    exact hStatements
  · rw [invoke_of_no_statements hText hStatements]
  · refine withholds_invoke fun other access path hReady => ?_
    cases hExplains.symm.trans hReady.explains
  · rw [invoke_of_explains hText hStatements hExplains, Outcome.shown, explain, List.flatMap_map]
  · refine withholds_invoke fun other access path hReady => ?_
    have hAccess := hReady.access
    rw [obtain_of_not_connected hColumns hDatabase hConnecting, if_pos hRequires] at hAccess
    cases hAccess
  · exact exit_of_not_connected hText hStatements hExplains hColumns hDatabase hConnecting hRequires

def sumTwice : Text := join "\n" Patcher.sumOfSketch ++ ";\n" ++ join "\n" Patcher.sumOfSketch

theorem text?_missing : (Files.storage []).text? "in.sql" = .error (.path .missing) := by
  have hNames : pieces '/' [] "in.sql" = ["in.sql".toList] := pieces_of_name (by decide)
  have hRead : Files.read? [] "in.sql" = .error .missing := by
    simp only [Files.read?, Files.approach, hNames]
    rfl
  simp only [Storage.text?, Files.storage, hRead]

theorem statements_sumTwice : Capture.statements sumTwice =
    [⟨1, join "\n" Patcher.sumOfSketch⟩, ⟨5, join "\n" Patcher.sumOfSketch⟩] := by
  have hText : sumTwice = join "\n" Patcher.sumOfSketch ++
      ';' :: '\n' :: join "\n" Patcher.sumOfSketch := rfl
  have hStop (rest : Text) : Capture.fromTerminator (join "\n" Patcher.sumOfSketch ++ rest) =
      Capture.fromTerminator rest :=
    Capture.fromTerminator_append_of_all rfl rest
  have hLast := hStop []
  rw [List.append_nil, Capture.fromTerminator_nil] at hLast
  have hSkip : Capture.statementsFrom 4 false ('\n' :: join "\n" Patcher.sumOfSketch) =
      Capture.statementsFrom 5 true (join "\n" Patcher.sumOfSketch) :=
    Capture.statementsFrom_skip rfl
  rw [Capture.statementsFrom_last (by decide) hLast] at hSkip
  rw [Capture.statements, hText, Capture.statementsFrom_next (by decide)
    ((hStop _).trans (Capture.fromTerminator_semicolon _))]
  exact congrArg (List.cons (⟨1, join "\n" Patcher.sumOfSketch⟩ : Statement)) hSkip

/-- The catalog cannot be read when the first query is patched. -/
def flakyConnection (query : Nat) : Connection :=
  { rows := [.column "s.b.v"], fetchFailure := if query = 0 then some "gone" else none }

def flakySurroundings (breaks : Option WriteFault) : Surroundings where
  storage :=
    { Files.storage [("in.sql", .file (encodeUtf8 sumTwice))] with breaks := fun _ _ => breaks }
  connecting := .ok (flakyConnection 0)
  change query _ := flakyConnection query

def flakyInvocation : Invocation := ⟨"in.sql", { output := some "out.sql" }⟩

def flakyAccess : Access :=
  { held := none, connection := some flakyConnection, connects := [{}] }

theorem ready_flakyInvocation (breaks : Option WriteFault) :
    flakyInvocation.Ready (flakySurroundings breaks) sumTwice flakyAccess "out.sql" where
  text := by
    have hText := text?_inputFile sumTwice
    rw [Storage.text?] at hText ⊢
    exact hText
  statements := by
    rw [statements_sumTwice]
    exact List.cons_ne_nil _ _
  explains := rfl
  output := rfl
  access := obtain_of_connected rfl rfl rfl

theorem entries_flakyInvocation (breaks : Option WriteFault) :
    flakyInvocation.entries (flakySurroundings breaks) flakyAccess sumTwice =
      [(⟨1, join "\n" Patcher.sumOfSketch⟩, join "\n" Patcher.sumOfSketch),
        (⟨5, join "\n" Patcher.sumOfSketch⟩, sumPatched)] := by
  have hFirst : columnsAt "hll" none flakyAccess.connection? 0 = [] := by
    refine columnsAt_of_not_answers fun earlier hEarlier asked hAsked names hAnswers => ?_
    obtain rfl := Nat.le_zero.mp hEarlier
    obtain rfl := Option.some.inj hAsked
    cases hAnswers.fetch
  have hAnswers : (flakyConnection 1).Answers ["s.b.v"] := ⟨rfl, rfl, rfl, rfl, rfl⟩
  have hSecond : columnsAt "hll" none flakyAccess.connection? 1 = ["s.b.v".toList] := by
    refine (columnsAt_of_answers rfl hAnswers (fun earlier hEarlier asked hAsked names hNames => ?_)
      (Nat.le_refl 1)).trans (by decide)
    obtain rfl := Nat.lt_one_iff.mp hEarlier
    obtain rfl := Option.some.inj hAsked
    cases hNames.fetch
  have hUnchanged : entry (flakyInvocation.patcher (flakySurroundings breaks))
      (columnsAt "hll" none flakyAccess.connection? 0) ⟨1, join "\n" Patcher.sumOfSketch⟩ =
        join "\n" Patcher.sumOfSketch := by
    rw [hFirst]
    exact entry_nil rfl (List.cons_ne_nil _ _) _
  have hPatched : entry (flakyInvocation.patcher (flakySurroundings breaks))
      (columnsAt "hll" none flakyAccess.connection? 1) ⟨5, join "\n" Patcher.sumOfSketch⟩ =
        sumPatched := by
    rw [hSecond]
    exact entry_sumOfSketch rfl rfl rfl 5
  rw [Invocation.entries, statements_sumTwice]
  exact congrArg₂ (fun first second => [(_, first), (_, second)]) hUnchanged hPatched

/-- The file takes three bytes. -/
def fullDisk : WriteFault := ⟨3, "[Errno 28] No space left on device"⟩

theorem run_delivers_tears_or_withholds_sumTwice :
    let arguments := ["in.sql".toList, "--output=out.sql".toList]
    let entries := flakyInvocation.entries (flakySurroundings none) flakyAccess sumTwice
    Arguments.ofList arguments = .invocation flakyInvocation ∧
      flakyInvocation.Ready (flakySurroundings none) sumTwice flakyAccess "out.sql" ∧
      entries = [(⟨1, join "\n" Patcher.sumOfSketch⟩, join "\n" Patcher.sumOfSketch),
        (⟨5, join "\n" Patcher.sumOfSketch⟩, sumPatched)] ∧
      (run arguments (flakySurroundings none)).written = some ("out.sql".toList, output entries) ∧
      CommandLine.entries (flakyInvocation.patcher (flakySurroundings none)) none
          (skipping 0 flakyAccess.connection?) [⟨5, join "\n" Patcher.sumOfSketch⟩] =
        [(⟨5, join "\n" Patcher.sumOfSketch⟩, sumPatched)] ∧
      (run arguments (flakySurroundings (some fullDisk))).torn =
        some ("out.sql".toList, (encodeUtf8 (output entries)).take 3) ∧
      (run arguments (flakySurroundings (some fullDisk))).exit = some 1 ∧
      (run arguments { flakySurroundings none with storage := Files.storage [] }).exit =
        some 1 := by
  intro arguments entries
  have hArguments : Arguments.ofList arguments = .invocation flakyInvocation := by decide
  have hRun (breaks : Option WriteFault) := ((run_delivers_tears_or_withholds arguments
    (flakySurroundings breaks)).2 _ hArguments).1 _ _ _ (ready_flakyInvocation breaks)
  have hMissing := ((run_delivers_tears_or_withholds arguments
    { flakySurroundings none with storage := Files.storage [] }).2 _ hArguments).2.2.1
      (.path .missing) text?_missing
  have hEntries := entries_flakyInvocation none
  have hDash : "out.sql".toList ≠ ['-'] := by decide
  have hPlace := writable?_outputFile (encodeUtf8 sumTwice)
  obtain ⟨hTears, hExit⟩ := (hRun (some fullDisk)).1.tears _ fullDisk hDash hPlace rfl
  refine ⟨hArguments, ready_flakyInvocation none, hEntries, ?_, ?_, hTears.torn_eq, hExit rfl,
    hMissing.2⟩
  · obtain ⟨-, place, hWritable, hWritten⟩ :=
      ((hRun none).1.fills (.inr ⟨_, hPlace, rfl⟩)).filed hDash
    obtain rfl := Except.ok.inj (hPlace.symm.trans hWritable)
    exact hWritten
  · obtain ⟨earlier, text, later, hWith, hBefore, hWithout⟩ :=
      ((hRun none).2.2 [] _ _ statements_sumTwice).1 fun _ asked hAsked names hAnswers => by
        obtain rfl := Option.some.inj hAsked
        cases hAnswers.fetch
    obtain rfl := List.map_eq_nil_iff.mp hBefore
    obtain ⟨-, rfl⟩ := List.cons.inj (hEntries.symm.trans hWith)
    exact hWithout

def sumSurroundings : Surroundings :=
  { storage := sumStorage, connecting := .error "connection refused" }

def sumInvocation (verbose : Bool) : Invocation :=
  ⟨"in.sql", { sketchColumns := [some "s.b.v"], verbose }⟩

theorem ready_sumInvocation (verbose : Bool) :
    (sumInvocation verbose).Ready sumSurroundings (join "\n" Patcher.sumOfSketch)
      { held := some ["s.b.v"] } "-" :=
  ⟨rewrites_sumStorage rfl rfl rfl, rfl⟩

theorem entries_sumInvocation (verbose : Bool) :
    (sumInvocation verbose).entries sumSurroundings { held := some ["s.b.v"] }
        (join "\n" Patcher.sumOfSketch) =
      [(⟨1, join "\n" Patcher.sumOfSketch⟩, sumPatched)] := by
  rw [Invocation.entries, statements_sumOfSketch, entries_of_columns fun _ => rfl,
    List.map_singleton, entry_sumOfSketch rfl rfl rfl]

/-- The output cannot be opened, nor can the connection be closed. -/
def lockedSurroundings : Surroundings :=
  { flakySurroundings none with
    storage := { (flakySurroundings none).storage with writable := fun _ => .error .isDirectory }
    closing := some "server closed the connection" }

theorem ready_lockedSurroundings : flakyInvocation.Ready lockedSurroundings sumTwice
    { flakyAccess with closing := some "server closed the connection" } "out.sql" where
  text := (ready_flakyInvocation none).text
  statements := (ready_flakyInvocation none).statements
  explains := rfl
  output := rfl
  access := obtain_of_connected rfl rfl rfl

/-- On the standard output the lines of a verbose run come before the entries, a file on a full disk
holds their first bytes, and a connection that cannot be closed takes the exit code away. -/
theorem output_ne_entries :
    (Arguments.ofList ["in.sql".toList, "--hll-column=s.b.v".toList, "-v".toList] =
        .invocation (sumInvocation true) ∧
      let entries := (sumInvocation true).entries sumSurroundings { held := some ["s.b.v"] }
        (join "\n" Patcher.sumOfSketch)
      let stdout := (run ["in.sql".toList, "--hll-column=s.b.v".toList, "-v".toList]
        sumSurroundings).stdout
      stdout = "Query at line 1: rewritten\n" ++ output entries ∧ stdout ≠ [] ∧
        stdout ≠ output entries) ∧
    Arguments.ofList ["in.sql".toList, "--output=out.sql".toList] =
        .invocation flakyInvocation ∧
      let entries := flakyInvocation.entries (flakySurroundings (some fullDisk)) flakyAccess
        sumTwice
      let outcome := run ["in.sql".toList, "--output=out.sql".toList]
        (flakySurroundings (some fullDisk))
      (outcome.written = none ∧
        outcome.torn = some ("out.sql".toList, (encodeUtf8 (output entries)).take 3) ∧
        (encodeUtf8 (output entries)).take 3 ≠ [] ∧
        (encodeUtf8 (output entries)).take 3 ≠ encodeUtf8 (output entries)) ∧
      lockedSurroundings.storage.writable "out.sql" = .error .isDirectory ∧
      (run ["in.sql".toList, "--output=out.sql".toList] lockedSurroundings).exit = none := by
  have hArguments : Arguments.ofList ["in.sql".toList, "--hll-column=s.b.v".toList, "-v".toList] =
      .invocation (sumInvocation true) := by
    decide
  have hArguments' : Arguments.ofList ["in.sql".toList, "--output=out.sql".toList] =
      .invocation flakyInvocation := by
    decide
  have hPrinted := ((ends_invoke (ready_sumInvocation true)).fills (.inl rfl)).printed rfl
  have hTears := ((ends_invoke (ready_flakyInvocation (some fullDisk))).tears _ fullDisk
    (by decide) (writable?_outputFile (encodeUtf8 sumTwice)) rfl).1
  rw [← run_of_invocation hArguments, entries_sumInvocation] at hPrinted
  have hUnclosed := (ends_invoke ready_lockedSurroundings).unclosed _ rfl
  rw [← run_of_invocation hArguments'] at hTears hUnclosed
  refine ⟨⟨hArguments, ?_⟩, hArguments', ⟨hTears.written_eq_none, hTears.torn_eq, ?_⟩, rfl,
    hUnclosed.1⟩
  · rw [entries_sumInvocation, hPrinted.2]
    exact ⟨rfl, List.cons_ne_nil _ _, by decide⟩
  · rw [entries_flakyInvocation]
    exact ⟨by decide, by decide⟩

end QueryPatch.CommandLine
