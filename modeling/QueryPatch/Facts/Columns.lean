import QueryPatch.Catalog.Connection
import QueryPatch.Log
import QueryPatch.Query.Column

/-! # Known sketch columns

The set of sketch columns is held from the first successful reading of the catalog on, or from a
seed, until it is forgotten. A failed reading answers with the empty set and holds nothing.
-/
set_option autoImplicit false

namespace QueryPatch

/-- An answer about the sketch columns, and what is held after it. -/
structure Lookup where
  columns : ColumnSet
  held : Option ColumnSet
  usage : Usage := {}
  log : Log := []

namespace Lookup

/-- The records of a failed reading, the second one if the rollback fails as well. -/
def failureLog (fault : Fault) (rollback : Option Fault) : Log :=
  .failure .facts "Error reading hyperloglog columns from the catalog" fault ::
    (rollback.map (.failure .facts "Error rolling back after the catalog query failed")).toList

/-- Asks the catalog, whatever is held. -/
def populate (sketchType : Text) (connection : Option Connection) : Lookup :=
  let query : Record := .debug .queries catalogQuery
  match connection with
  | none => { columns := [], held := none, log := query :: failureLog .noConnection none }
  | some connection =>
    match connection.read sketchType with
    | (.ok names, usage) =>
      let columns := ColumnSet.ofList names
      { columns, held := some columns, usage,
        log := [query,
          .debug .facts ("Found " ++ Text.ofNat columns.length ++ " hyperloglog columns")] }
    | (.error fault, usage) =>
      let (rollback, undone) := connection.rollBack
      { columns := [], held := none, usage := usage ++ undone,
        log := query :: failureLog fault rollback }

/-- Asks the catalog only if nothing is held. -/
def of (sketchType : Text) (held : Option ColumnSet) (connection : Option Connection) : Lookup :=
  match held with
  | some columns => { columns, held }
  | none => populate sketchType connection

end Lookup

/-- What a seed is given as: a text stands for its characters. -/
inductive Seed
  | text (given : Text)
  | items (given : List (Option Text))
  | other
  deriving DecidableEq

namespace Seed

def key? : Option Text → Except Fault Text
  | some name => .ok (Text.lowercase name)
  | none => .error .columnNotText

def columns? : Seed → Except Fault ColumnSet
  | text given => .ok (.ofList (given.map fun c => Text.lowercase [c]))
  | items given => (given.mapM key?).map ColumnSet.ofList
  | other => .error .columnsNotList

end Seed
end QueryPatch
