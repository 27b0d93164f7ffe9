import QueryPatch.CommandLine.Run

/-! # The program

Reads the named file, runs, and writes what the run decides. No database is reached from here.
-/
set_option autoImplicit false

namespace QueryPatch.CommandLine

def variableNames : List String :=
  ["SQL_REWRITER_DIALECT", "SQL_REWRITER_VALIDATE_OUTPUT", "SQL_REWRITER_HLL_TYPE",
   "SQL_REWRITER_DB_HOST", "SQL_REWRITER_DB_PORT", "SQL_REWRITER_DB_NAME",
   "SQL_REWRITER_DB_USER", "SQL_REWRITER_DB_PASSWORD"]

def readEnvironment : IO Environment :=
  variableNames.filterMapM fun name => do
    return (← IO.getEnv name).map fun value => (name.toList, value.toList)

def pathFault : IO.Error → PathFault
  | .inappropriateType .. => .isDirectory
  | _ => .missing

def readFile (path : Text) : IO (Except PathFault (List UInt8)) := do
  try return .ok (← IO.FS.readBinFile (String.ofList path)).data.toList
  catch error => return .error (pathFault error)

/-- The input is read before the run, the output is written after it. -/
def storageFor (arguments : List Text) : IO Storage := do
  let read ← match Arguments.ofList arguments with
    | .invocation invocation => readFile invocation.input
    | _ => pure (.error .missing)
  return { read := fun _ => read, writable := .ok }

def showRecord (record : Record) : IO Unit := do
  let level := match record.level with
    | .debug => "DEBUG"
    | .warning => "WARNING"
    | .error => "ERROR"
  let cause := match record.cause with
    | some fault => ": " ++ String.ofList fault.message
    | none => ""
  IO.eprintln (level ++ " | " ++ String.ofList record.message ++ cause)

def writeOutput (written : Option (Text × Text)) : IO UInt32 := do
  match written with
  | none => return 0
  | some (path, content) =>
    try
      IO.FS.writeFile (String.ofList path) (String.ofList content)
      return 0
    catch error =>
      IO.eprintln ("ERROR: Failed to write output file: " ++ toString error)
      return 1

def program (args : List String) : IO UInt32 := do
  let arguments := args.map String.toList
  let outcome := run arguments
    { environment := ← readEnvironment
      storage := ← storageFor arguments
      connecting := .error "no database can be reached" }
  outcome.log.forM showRecord
  IO.print (String.ofList outcome.stdout)
  let code ← writeOutput outcome.written
  if code != 0 then return code
  IO.eprint (String.ofList outcome.stderr)
  match outcome.fault, outcome.exit with
  | some fault, _ =>
    IO.eprintln (String.ofList fault.message)
    return 1
  | none, code => return (code.getD 0).toUInt32

end QueryPatch.CommandLine

def main (args : List String) : IO UInt32 := QueryPatch.CommandLine.program args
