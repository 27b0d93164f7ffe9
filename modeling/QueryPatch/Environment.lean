import QueryPatch.Text.Basic

/-! # The environment

The variables that are set, by name.
-/
set_option autoImplicit false

namespace QueryPatch

abbrev Environment := List (Text × Text)

def Environment.value? (environment : Environment) (name : Text) : Option Text :=
  environment.lookup name

end QueryPatch
