import QueryPatch.Environment
import QueryPatch.Fault
import QueryPatch.Text.Integer

/-! # Where the database is

The place of the database and the account used there, from the environment or by default.
-/
set_option autoImplicit false

namespace QueryPatch

structure Database where
  host : Text := "localhost"
  tcpPort : Int := 5432
  database : Text := "postgres"
  user : Text := "postgres"
  password : Text := "postgres"
  deriving DecidableEq

namespace Database

def tcpPort? (value : Text) : Except Fault Int :=
  match Text.integer? value with
  | .ok number => .ok number
  | .error .malformed => .error (.malformedInteger value)
  | .error (.tooLong digits) => .error (.integerTooLong digits)

def load (environment : Environment) : Except Fault Database :=
  (tcpPort? ((environment.value? "SQL_REWRITER_DB_PORT").getD "5432")).map fun tcpPort =>
    { host := (environment.value? "SQL_REWRITER_DB_HOST").getD "localhost"
      tcpPort
      database := (environment.value? "SQL_REWRITER_DB_NAME").getD "postgres"
      user := (environment.value? "SQL_REWRITER_DB_USER").getD "postgres"
      password := (environment.value? "SQL_REWRITER_DB_PASSWORD").getD "postgres" }

end Database
end QueryPatch
