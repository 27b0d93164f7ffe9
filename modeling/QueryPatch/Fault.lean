import QueryPatch.Text.Quoted

/-! # Faults

Everything that can go wrong, by cause. The text of a fault is in one place.
-/
set_option autoImplicit false

namespace QueryPatch

inductive Fault
  | emptySeparator
  /-- A sequence of bytes was given where lines of text are read. -/
  | bytesNotText
  /-- Something else than text was given where lines of text are read. -/
  | notText
  | unknownAttribute (name : Text)
  | reservedAttribute (name : Text)
  | alreadyReplaced (line : Text)
  | noSuchLine
  | ruleWithoutAction
  | ruleFailed (message : Text)
  | noConnection
  | connectionFailed (message : Text)
  | emptyRow
  | rowNotText
  | rejected (message : Text)
  | validatorFailed (message : Text)
  | rowCountNotNumber
  | columnsNotList
  | columnNotText
  | malformedInteger (literal : Text)
  | integerTooLong (digits : Nat)
  | nulInPath
  | outputNotNamed
  deriving DecidableEq

namespace Fault

/-- No more than so many code points of a malformed integer are shown. -/
def shownLiteral : Nat := 200

def message : Fault → Text
  | emptySeparator => "empty separator"
  | bytesNotText => "a separator of text does not cut bytes"
  | notText => "not a text"
  | unknownAttribute name => "Unknown fragment attribute: " ++ name
  | reservedAttribute name => "a classification itself is given " ++ name
  | alreadyReplaced line => "Fragment already rewritten: " ++ Text.quoted line
  | noSuchLine => "no such line"
  | ruleWithoutAction => ""
  | ruleFailed message => message
  | noConnection => "no connection"
  | connectionFailed message => message
  | emptyRow => "empty row"
  | rowNotText => "the first item of the row is not a text"
  | rejected message => "Rewritten query does not parse: " ++ message
  | validatorFailed message => message
  | rowCountNotNumber => "the row count is not a number"
  | columnsNotList => "the columns are not a list"
  | columnNotText => "a column is not a text"
  | malformedInteger literal =>
    "invalid literal for int() with base 10: " ++ (Text.quoted literal).take shownLiteral
  | integerTooLong digits =>
    "Exceeds the limit (4300 digits) for integer string conversion: value has " ++
      Text.ofNat digits ++
      " digits; use sys.set_int_max_str_digits() to increase the limit"
  | nulInPath => "embedded null byte"
  | outputNotNamed => "the output has no name"

end Fault
end QueryPatch
