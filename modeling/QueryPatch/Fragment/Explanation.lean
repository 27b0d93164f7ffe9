import QueryPatch.Fragment.Basic

/-! # Explanations

How a line was read, on one line: role, details, and the line itself. Role and details are padded
to a column each and never cut.
-/
set_option autoImplicit false

namespace QueryPatch

/-- What the attributes say about a line of the given role. -/
def Attributes.details (attributes : Attributes) : Role → Text
  | .table =>
    Text.shown attributes.schema ++ "." ++ Text.shown attributes.table ++ " -> " ++
      Text.shown attributes.tableAlias
  | .aggregation =>
    Text.shown attributes.function ++ " " ++ Text.shown attributes.tableAlias ++ "." ++
      Text.shown attributes.column ++ " -> " ++ Text.shown attributes.outputName
  | .join =>
    Text.shown attributes.tableAlias ++ "." ++ Text.shown attributes.column ++ " = " ++
      Text.shown attributes.joinedAlias ++ "." ++ Text.shown attributes.joinedColumn
  | .condition => Text.shown attributes.tableAlias ++ "." ++ Text.shown attributes.column
  | .text | .keyword _ => []

namespace Fragment

def roleWidth : Nat := 20

def detailsWidth : Nat := 40

def explained (fragment : Fragment) : Text :=
  Text.padTo roleWidth fragment.role.label ++ " " ++
    Text.padTo detailsWidth (fragment.attributes.details fragment.role) ++ " | " ++ fragment.text

end Fragment
end QueryPatch
