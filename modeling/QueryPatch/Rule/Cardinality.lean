import QueryPatch.Rule.Basic

/-! # Cardinality of sketch columns

A sketch column cannot be summed or counted. An aggregation that does so is replaced by the
cardinality of the union of the sketches, provided that the alias it uses is declared by a table
line and the column of that table is known to hold sketches.
-/
set_option autoImplicit false

namespace QueryPatch

/-- The catalog name of the sketch type. -/
def sketchType : Text := "hll"

/-- The aggregations that sketches do not have. -/
def unsupportedAggregations : List Text := ["count(distinct".toList, "sum(".toList]

def Attributes.cardinality (attributes : Attributes) : Text :=
  "    hll_cardinality(hll_union_agg(\"" ++ Text.shown attributes.tableAlias ++ "\".\"" ++
    Text.shown attributes.column ++ "\")) as \"" ++ Text.shown attributes.outputName ++ "\"" ++
    (if attributes.hasNext then [','] else [])

namespace Query

def declaring? (query : Query) (tableAlias : Option Text) : Option Fragment := do
  query.fragments[← Keyed.get? query.aliases (← tableAlias)]?

def sums (fragment : Fragment) : Bool :=
  fragment.role = .aggregation &&
    match fragment.attributes.function with
    | some function => unsupportedAggregations.contains function
    | none => false

/-- Whether the column that the line aggregates belongs to a table and holds sketches. -/
def overSketch (query : Query) (columns : ColumnSet) (fragment : Fragment) : Bool :=
  match query.declaring? fragment.attributes.tableAlias with
  | some table =>
    table.role = .table &&
      columns.contains (columnKey table.attributes fragment.attributes.column)
  | none => false

def cardinalityEdits (query : Query) (columns : ColumnSet) : List Edit :=
  query.fragments.zipIdx.filterMap fun (fragment, line) =>
    if sums fragment && query.overSketch columns fragment then
      some ⟨line, fragment.attributes.cardinality⟩
    else none

end Query

def Rule.cardinality : Rule where
  name := "hll_aggregation"
  edits := Query.cardinalityEdits
  ending query columns := .ok !(query.cardinalityEdits columns).isEmpty

def Rule.standard : List Rule := [.cardinality]

end QueryPatch
