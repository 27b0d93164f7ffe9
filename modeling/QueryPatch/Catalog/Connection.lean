import QueryPatch.Fault
import QueryPatch.Text.Lowercase

/-! # Connections

How a database behaves when its catalog is asked for the columns of a type. Any step can fail. A
cursor that was made is closed exactly once, whatever happens in between; a failure to close counts
more than what failed before it.
-/
set_option autoImplicit false

namespace QueryPatch

/-- The catalog query. Its one parameter is the name of the type. -/
def catalogQuery : Text :=
  "\nselect lower(n.nspname || '.' || c.relname || '.' || a.attname) as hll_column\n" ++
  "from pg_attribute a\n" ++
  "join pg_class c on a.attrelid = c.oid\n" ++
  "join pg_namespace n on c.relnamespace = n.oid\n" ++
  "join pg_type t on a.atttypid = t.oid\n" ++
  "where t.typname = %s"

/-- What stands first in a row of an answer. -/
inductive Row
  | empty
  | column (name : Text)
  | notText
  deriving DecidableEq

def Row.column? : Row → Except Fault Text
  | empty => .error .emptyRow
  | column name => .ok (Text.lowercase name)
  | notText => .error .rowNotText

/-- The rows of the answer, and a message for each step that fails. -/
structure Connection where
  rows : List Row := []
  cursorFailure : Option Text := none
  executeFailure : Option Text := none
  fetchFailure : Option Text := none
  closeFailure : Option Text := none
  rollbackFailure : Option Text := none
  canRollBack : Bool := true
  deriving DecidableEq

/-- What was done on a connection: the parameters of each query, cursors closed, rollbacks. -/
structure Usage where
  queries : List (List Text) := []
  cursorsClosed : Nat := 0
  rollbacks : Nat := 0
  deriving DecidableEq

instance : Append Usage where
  append first second :=
    ⟨first.queries ++ second.queries, first.cursorsClosed + second.cursorsClosed,
      first.rollbacks + second.rollbacks⟩

namespace Connection

/-- Each row in lower case, or the fault of the first bad row. -/
def columns? (rows : List Row) : Except Fault (List Text) := rows.mapM Row.column?

/-- The answer to the catalog query, and what was done for it. A query counts before it fails. -/
def read (connection : Connection) (sketchType : Text) : Except Fault (List Text) × Usage :=
  match connection.cursorFailure with
  | some message => (.error (.connectionFailed message), {})
  | none =>
    let answer :=
      match connection.closeFailure <|> connection.executeFailure <|> connection.fetchFailure with
      | some message => .error (.connectionFailed message)
      | none => columns? connection.rows
    (answer, { queries := [[sketchType]], cursorsClosed := 1 })

/-- Ends the transaction of a failed query, if the connection knows how. -/
def rollBack (connection : Connection) : Option Fault × Usage :=
  if connection.canRollBack then
    (connection.rollbackFailure.map .connectionFailed, { rollbacks := 1 })
  else (none, {})

end Connection
end QueryPatch
