import QueryPatch.Fragment.Attributes
import QueryPatch.Text.Lowercase

/-! # Columns

A column of a table is known by one lower-case key.
-/
set_option autoImplicit false

namespace QueryPatch

/-- A set of column keys, each listed once. -/
abbrev ColumnSet := List Text

def ColumnSet.ofList (keys : List Text) : ColumnSet := keys.eraseDups

/-- `schema.table.column` in lower case. -/
def columnKey (table : Attributes) (column : Option Text) : Text :=
  Text.lowercase
    (Text.shown table.schema ++ "." ++ Text.shown table.table ++ "." ++ Text.shown column)

end QueryPatch
