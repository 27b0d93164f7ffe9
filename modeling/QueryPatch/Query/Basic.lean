import QueryPatch.Line.Reading
import QueryPatch.Query.Registry
import QueryPatch.Text.Pieces

/-! # Queries

A query is its lines in order, the lines that declare each table alias, and the lines that join
each alias. It is read from a text cut at a separator and written with the same separator.
-/
set_option autoImplicit false

namespace QueryPatch

structure Query where
  fragments : List Fragment
  aliases : Registry
  joins : Registry
  deriving DecidableEq

namespace Query

/-- Every name with the line that declares it, in order. -/
def declarations (names : Reading → List Text) (readings : List Reading) : List (Text × Nat) :=
  readings.zipIdx.flatMap fun (reading, line) => (names reading).map (·, line)

def ofReadings (readings : List Reading) : Query where
  fragments := readings.map (·.fragment)
  aliases := .ofDeclarations (declarations (·.aliases) readings)
  joins := .ofDeclarations (declarations (·.joins) readings)

/-- Reads with the given recognisers. Only the empty separator is refused. -/
def readings? (recognisers : List Recogniser) (separator text : Text) :
    Except Fault (List Reading) :=
  match Text.split separator text with
  | some lines => .ok (readLines recognisers .outside lines)
  | none => .error .emptySeparator

def ofText? (separator text : Text) : Except Fault Query :=
  (readings? Recogniser.standard separator text).map ofReadings

def withRole (query : Query) (role : Role) : List Fragment :=
  query.fragments.filter (·.role = role)

def rendered (separator : Text) (query : Query) : Text :=
  Text.join separator (query.fragments.map (·.rendered))

end Query
end QueryPatch
