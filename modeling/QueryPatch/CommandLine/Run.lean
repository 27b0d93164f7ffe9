import QueryPatch.Capture
import QueryPatch.Catalog.Database
import QueryPatch.CommandLine.Arguments
import QueryPatch.CommandLine.Files
import QueryPatch.Fragment.Explanation
import QueryPatch.Patch.Basic

/-! # The command line

A file of captured queries is patched, or explained, as one run. The columns come from the arguments
or from a database; without either the queries pass unchanged. Output is written once, after the
last query. What goes to the standard output is taken as a whole.
-/
set_option autoImplicit false

namespace QueryPatch.CommandLine

/-- What a run finds: the environment, the storage, what comes of connecting to the database, and
the validator. -/
structure Surroundings where
  environment : Environment := []
  storage : Storage
  connecting : Except Text Connection
  /-- What the connection has become when a query is patched, by the number of queries before. -/
  change : Nat → Connection → Connection := fun _ connection => connection
  /-- Why closing the connection fails, if it does. -/
  closing : Option Text := none
  validator : Validator := Validator.acceptAll

/-- What a run does. It ends with an exit code, with a fault, or without either. -/
structure Outcome where
  exit : Option Nat := none
  fault : Option Fault := none
  stdout : Text := []
  stderr : Text := []
  /-- The place of the file that was written, and all that is in it. -/
  written : Option (Text × Text) := none
  /-- The place of a file that was not written to its end, and the bytes that are in it. -/
  torn : Option (Text × List UInt8) := none
  connects : List Database := []
  /-- What was done on the connection that was opened, and how often it was to be closed. -/
  opened : Option (Usage × Nat) := none
  log : Log := []
  validated : List (Text × Text) := []

def programName : Text := "sql-rewriter"

def usageLine : Text :=
  "usage: " ++ programName ++ " [-h] [--output OUTPUT] [--dialect DIALECT] [--validate] " ++
    "[--hll-column SCHEMA.TABLE.COLUMN] [--explain] [--require-db] [--verbose] input_file\n"

def line (text : Text) : Text := text ++ ['\n']

/-- A statement that was patched. -/
structure Result where
  statement : Statement
  patched : Patched Empty

namespace Result

def text (result : Result) : Text :=
  match result.patched.answer with
  | .text text => text
  | _ => result.statement.text

def isChanged (result : Result) : Bool := result.text ≠ result.statement.text

def progress (result : Result) : Text :=
  "Query at line " ++ Text.ofNat result.statement.line ++ ": rewritten"

end Result

/-- Statements in order, each with what is held after the ones before it, and with what their number
has made of the connection. -/
def patchAll (patcher : Patcher) :
    (Nat → Option Connection) → Option ColumnSet → List Statement → List Result
  | _, _, [] => []
  | connection, held, statement :: rest =>
    let patched :=
      patcher.patch patcher.settings.sketchType held (connection 0) (.text statement.text)
    ⟨statement, patched⟩ :: patchAll patcher (fun query => connection (query + 1)) patched.held rest

/-- The output: each query with its semicolon on lines of its own, an empty line between two. -/
def rendered (texts : List Text) : Text :=
  Text.join "\n" (texts.map fun text => text ++ ";\n")

/-- How one statement was read, line by line. -/
def explanation (settings : Settings) (statement : Statement) : Text × Log :=
  match Query.readings? Recogniser.standard settings.separator statement.text with
  | .error _ => ([], [])
  | .ok readings =>
    (line ("-- query at line " ++ Text.ofNat statement.line) ++
        readings.flatMap (fun reading => line reading.fragment.explained) ++ line [],
      readings.flatMap (·.log))

def explain (settings : Settings) (statements : List Statement) : Outcome :=
  let parts := statements.map (explanation settings)
  { stdout := parts.flatMap (·.1), log := parts.flatMap (·.2) }

/-- Where the columns come from: what is held at the start, and the connection that is asked, by the
number of queries before. -/
structure Access where
  held : Option ColumnSet
  connection : Option (Nat → Connection) := none
  /-- Why closing the connection fails, if there is one and it does. -/
  closing : Option Text := none
  connects : List Database := []
  stderr : Text := []

def Access.connection? (access : Access) (query : Nat) : Option Connection :=
  access.connection.map (· query)

/-- The error is a run that ends before the first query is patched. -/
def Access.obtain (options : Options) (surroundings : Surroundings) : Except Outcome Access :=
  if options.sketchColumns.isEmpty then
    match Database.load surroundings.environment with
    | .error fault => .error { fault := some fault }
    | .ok database =>
      match surroundings.connecting with
      | .ok connection =>
        .ok
          { held := none
            connection := some fun query => surroundings.change query connection
            closing := surroundings.closing
            connects := [database] }
      | .error message =>
        let stderr := line ("ERROR: Cannot connect to " ++ database.host ++ ":" ++
          Text.ofInt database.tcpPort ++ "/" ++ database.database ++ ": " ++ message)
        if options.requiresDatabase then
          .error { exit := some 1, stderr, connects := [database] }
        else .ok { held := some [], connects := [database], stderr }
  else
    match Seed.columns? (.items options.sketchColumns) with
    | .ok columns => .ok { held := some columns }
    | .error fault => .error { fault := some fault }

/-- What was done on the connection by all results together. -/
def usage (results : List Result) : Usage :=
  results.foldl (fun used result => used ++ result.patched.usage) {}

def summary (output : Text) (results : List Result) : Text :=
  line [] ++
    line ("Rewritten: " ++ Text.ofNat (results.countP (·.isChanged)) ++ "/" ++
      Text.ofNat results.length ++ " queries") ++
    (if output = ['-'] then [] else line ("Output written to: " ++ output))

/-- Writes the output at once, to the standard output or to a file. -/
def deliver (path : Text) (storage : Storage) (content : Text) (outcome : Outcome) : Outcome :=
  let failed (message : Text) : Outcome :=
    { outcome with
      exit := some 1
      stderr := outcome.stderr ++ line [] ++
        line ("ERROR: Failed to write output file: " ++ message) }
  if path = ['-'] then { outcome with stdout := outcome.stdout ++ content }
  else
    match storage.writable path with
    | .error .nul => { outcome with fault := some .nulInPath }
    | .error fault => failed (fault.message path)
    | .ok place =>
      match storage.breaks place content with
      | none => { outcome with written := some (place, content) }
      | some fault => { failed fault.message with torn := some (place, fault.bytes content) }

namespace Outcome

/-- The connection is closed however the run has gone. A failure to close it counts more than what
failed before. -/
def close (closing : Option Text) (outcome : Outcome) : Outcome :=
  match closing with
  | none => outcome
  | some message => { outcome with exit := none, fault := some (.connectionFailed message) }

/-- Only a run that has gone well says what it has done. -/
def conclude (summary : Text) (outcome : Outcome) : Outcome :=
  if outcome.exit = none ∧ outcome.fault = none then
    { outcome with stderr := outcome.stderr ++ summary }
  else outcome

end Outcome

def patch (options : Options) (settings : Settings) (surroundings : Surroundings)
    (statements : List Statement) : Outcome :=
  match Access.obtain options surroundings with
  | .error outcome => outcome
  | .ok access =>
    let patcher : Patcher := { settings, validator := surroundings.validator }
    let results := patchAll patcher access.connection? access.held statements
    let changed := results.filter (·.isChanged)
    let outcome : Outcome :=
      { stdout :=
          if options.verbose then changed.flatMap (fun result => line result.progress) else []
        stderr := access.stderr
        connects := access.connects
        opened := access.connection.map fun _ => (usage results, 1)
        log := results.flatMap (·.patched.log)
        validated := results.flatMap (·.patched.validated) }
    match options.output with
    | none => { outcome with fault := some .outputNotNamed }.close access.closing
    | some path =>
      let content := rendered (results.map (·.text))
      ((deliver path surroundings.storage content outcome).close access.closing).conclude
        (summary path results)

/-- Records below the threshold are not shown. -/
def Outcome.shown (verbose : Bool) (outcome : Outcome) : Outcome :=
  { outcome with log := outcome.log.filter (Record.passes (Level.threshold verbose)) }

def invoke (invocation : Invocation) (surroundings : Surroundings) : Outcome :=
  let options := invocation.options
  match surroundings.storage.text? invocation.input with
  | .error fault => { exit := some 1, stderr := line (fault.message invocation.input) }
  | .ok text =>
    match Capture.statements text with
    | [] => { exit := some 0, stderr := line ("WARNING: No queries found in " ++ invocation.input) }
    | statements =>
      let settings := Settings.load surroundings.environment options.dialect
        (if options.validates then some true else none) (some "\n")
      let outcome :=
        if options.explains then explain settings statements
        else patch options settings surroundings statements
      outcome.shown options.verbose

def run (arguments : List Text) (surroundings : Surroundings) : Outcome :=
  match Arguments.ofList arguments with
  | .invocation invocation => invoke invocation surroundings
  | .help => { exit := some 0, stdout := usageLine }
  | .refused fault =>
    { exit := some 2, stderr := usageLine ++ line (programName ++ ": error: " ++ fault.message) }

end QueryPatch.CommandLine
