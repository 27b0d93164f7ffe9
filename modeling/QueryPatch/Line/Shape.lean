import QueryPatch.Fragment.Basic
import QueryPatch.Text.Blank
import QueryPatch.Text.Word

/-! # Shapes of lines

The four shapes a line can have besides the keywords, each with its grammar. Names stand in double
quotes; of two names in a row the second is set off by one character of any kind but a newline.
Each reader takes the start of a text and returns what follows; a shape has to fill its text.
-/
set_option autoImplicit false

namespace QueryPatch

inductive Shape
  | aggregation (function tableAlias column outputName : Text) (hasNext : Bool)
  | table (schema name tableAlias : Text)
  | join (tableAlias column joinedAlias joinedColumn : Text)
  | condition (tableAlias column : Text)
  deriving DecidableEq

namespace Text

/-- What follows `lead` in a text that begins with it. -/
def after? : Text → Text → Option Text
  | [], text => some text
  | _ :: _, [] => none
  | c :: lead, d :: text => if c = d then after? lead text else none

theorem after?_eq_some_iff {lead text rest : Text} :
    after? lead text = some rest ↔ text = lead ++ rest := by
  fun_induction after? lead text with
  | case1 text => simp
  | case2 => simp
  | case3 c lead text ih => simpa using ih
  | case4 c lead d text h => simp [Ne.symm h]

/-- A word in double quotes. -/
def name? (text : Text) : Option (Text × Text) := do
  let (word, rest) ← word? (← after? ['"'] text)
  return (word, ← after? ['"'] rest)

/-- Two names set off by one character. -/
def namePair? (text : Text) : Option ((Text × Text) × Text) := do
  let (first, rest) ← name? text
  match rest with
  | [] => none
  | mark :: rest =>
    if mark = '\n' then none
    else
      let (second, rest) ← name? rest
      return ((first, second), rest)

/-- The end of a list item: whether a comma says that another one follows. -/
def itemEnd? : Text → Option Bool
  | [] => some false
  | [','] => some true
  | _ => none

/-- A text between brackets that close at its very end loses them, once. -/
def unbracketed (text : Text) : Text :=
  match text with
  | '(' :: rest => if rest.getLast? = some ')' then rest.dropLast else text
  | _ => text

end Text

namespace Shape

open Text

def isFunctionChar (c : Char) : Bool := isWordChar c || c == ' ' || c == '('

/-- The opening of a call, then `"t"."c") as "m"` and a comma if another item follows. -/
def aggregation? (text : Text) : Option Shape := do
  let opening := text.takeWhile isFunctionChar
  if opening.isEmpty then none
  let ((tableAlias, column), rest) ← namePair? (text.dropWhile isFunctionChar)
  let (outputName, rest) ← name? (← after? ") as " rest)
  return .aggregation (strip opening) tableAlias column outputName (← itemEnd? rest)

/-- `"s"."b" as "t"` and a comma if another item follows. -/
def table? (text : Text) : Option Shape := do
  let ((schema, name), rest) ← namePair? text
  let (tableAlias, rest) ← name? (← after? " as " rest)
  let _ ← itemEnd? rest
  return .table schema name tableAlias

/-- `"t"."x" = "u"."y"`. -/
def join? (text : Text) : Option Shape := do
  let ((tableAlias, column), rest) ← namePair? text
  let ((joinedAlias, joinedColumn), rest) ← namePair? (← after? " = " rest)
  if rest.isEmpty then some (.join tableAlias column joinedAlias joinedColumn) else none

def isValueChar (c : Char) : Bool := isWordChar c || c == '\'' || c == ' '

def isListChar (c : Char) : Bool := isValueChar c || c == ','

/-- ` = ` and a value. -/
def isEquality (text : Text) : Bool :=
  match after? " = " text with
  | some value => !value.isEmpty && value.all isValueChar
  | none => false

/-- ` in ` and a list of values in brackets. -/
def isMembership (text : Text) : Bool :=
  match after? " in (" text with
  | some body =>
    !(body.takeWhile isListChar).isEmpty && body.dropWhile isListChar == [')']
  | none => false

/-- `"t"."x" = v` or `"t"."x" in (v)`, in brackets or not. -/
def condition? (text : Text) : Option Shape := do
  let ((tableAlias, column), rest) ← namePair? (unbracketed text)
  if isEquality rest || isMembership rest then some (.condition tableAlias column) else none

def role : Shape → Role
  | aggregation .. => .aggregation
  | table .. => .table
  | join .. => .join
  | condition .. => .condition

def attributes : Shape → Attributes
  | aggregation function tableAlias column outputName hasNext =>
    { function := some function, tableAlias := some tableAlias, column := some column,
      outputName := some outputName, hasNext }
  | table schema name tableAlias =>
    { schema := some schema, table := some name, tableAlias := some tableAlias }
  | join tableAlias column joinedAlias joinedColumn =>
    { tableAlias := some tableAlias, column := some column,
      joinedAlias := some joinedAlias, joinedColumn := some joinedColumn }
  | condition tableAlias column => { tableAlias := some tableAlias, column := some column }

/-- The alias that the line declares for a table; an aggregation declares the one it uses. -/
def declaredAlias? : Shape → Option Text
  | aggregation _ tableAlias .. | table _ _ tableAlias => some tableAlias
  | join .. | condition .. => none

def joinedAlias? : Shape → Option Text
  | join _ _ joinedAlias _ => some joinedAlias
  | _ => none

end Shape
end QueryPatch
