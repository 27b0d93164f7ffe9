import QueryPatch.Environment
import QueryPatch.Rule.Cardinality

/-! # Settings

What a patcher is set to, from given values, then from the environment, then by default.
-/
set_option autoImplicit false

namespace QueryPatch

structure Settings where
  dialect : Text := "postgres"
  validates : Bool := false
  separator : Text := "\n"
  sketchType : Text := QueryPatch.sketchType
  deriving DecidableEq

namespace Settings

def flagWords : List Text := ["1".toList, "true".toList, "yes".toList, "on".toList]

/-- A flag is on for four words, in any case and with blanks around them. -/
def isOn (value : Text) : Bool := flagWords.contains (Text.lowercase (Text.strip value))

/-- An empty text counts as not given. -/
def given (value : Option Text) : Option Text := value.filter fun text => !text.isEmpty

def load (environment : Environment) (dialect : Option Text) (validates : Option Bool)
    (separator : Option Text) : Settings where
  dialect := (given dialect).getD ((environment.value? "SQL_REWRITER_DIALECT").getD "postgres")
  validates :=
    validates.getD (((environment.value? "SQL_REWRITER_VALIDATE_OUTPUT").map isOn).getD false)
  separator := (given separator).getD "\n"
  sketchType := (environment.value? "SQL_REWRITER_HLL_TYPE").getD QueryPatch.sketchType

end Settings
end QueryPatch
