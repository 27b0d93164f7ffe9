import QueryPatch.Text.Basic

/-! # Attributes of lines

The names that a line was found to hold. Which of them are known depends on the role of the line.
-/
set_option autoImplicit false

namespace QueryPatch

inductive Field
  | schema
  | table
  | tableAlias
  | column
  | function
  | outputName
  | joinedAlias
  | joinedColumn
  deriving DecidableEq

structure Attributes where
  schema : Option Text := none
  table : Option Text := none
  tableAlias : Option Text := none
  column : Option Text := none
  /-- The opening of an aggregation, such as `sum(` or `count(distinct`. -/
  function : Option Text := none
  outputName : Option Text := none
  joinedAlias : Option Text := none
  joinedColumn : Option Text := none
  /-- Whether the line ends with a comma. -/
  hasNext : Bool := false
  deriving DecidableEq

namespace Attributes

def get (attributes : Attributes) : Field → Option Text
  | .schema => attributes.schema
  | .table => attributes.table
  | .tableAlias => attributes.tableAlias
  | .column => attributes.column
  | .function => attributes.function
  | .outputName => attributes.outputName
  | .joinedAlias => attributes.joinedAlias
  | .joinedColumn => attributes.joinedColumn

def set (attributes : Attributes) (value : Option Text) : Field → Attributes
  | .schema => { attributes with schema := value }
  | .table => { attributes with table := value }
  | .tableAlias => { attributes with tableAlias := value }
  | .column => { attributes with column := value }
  | .function => { attributes with function := value }
  | .outputName => { attributes with outputName := value }
  | .joinedAlias => { attributes with joinedAlias := value }
  | .joinedColumn => { attributes with joinedColumn := value }

@[simp] theorem get_set_self (attributes : Attributes) (value : Option Text) (field : Field) :
    (attributes.set value field).get field = value := by
  cases field <;> rfl

theorem get_set_of_ne (attributes : Attributes) (value : Option Text) {field other : Field}
    (h : other ≠ field) : (attributes.set value field).get other = attributes.get other := by
  cases field <;> cases other <;> first | rfl | exact absurd rfl h

@[simp] theorem hasNext_set (attributes : Attributes) (value : Option Text) (field : Field) :
    (attributes.set value field).hasNext = attributes.hasNext := by
  cases field <;> rfl

end Attributes
end QueryPatch
