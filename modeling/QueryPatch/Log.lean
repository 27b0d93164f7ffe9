import QueryPatch.Fault

/-! # Log records

What is reported on the side, in order of emission.
-/
set_option autoImplicit false

namespace QueryPatch

inductive Level
  | debug
  | warning
  | error
  deriving DecidableEq

namespace Level

def rank : Level → Nat
  | debug => 0
  | warning => 1
  | error => 2

/-- The lowest level that is shown. -/
def threshold (verbose : Bool) : Level := if verbose then debug else warning

end Level

/-- Where records go: how many handlers there are, and from which level on they are shown. -/
structure Logging where
  handlers : Nat
  threshold : Level
  deriving DecidableEq

/-- A handler is added only where there is none. -/
def Logging.configure (logging : Logging) (verbose : Bool) : Logging where
  handlers := if logging.handlers = 0 then 1 else logging.handlers
  threshold := Level.threshold verbose

/-- Who reports: the reading of lines, the facts about the database, the patcher, or the trace of
query texts. -/
inductive Channel
  | reading
  | facts
  | patching
  | queries
  deriving DecidableEq

structure Record where
  channel : Channel
  level : Level
  message : Text
  cause : Option Fault := none
  deriving DecidableEq

abbrev Log := List Record

namespace Record

def debug (channel : Channel) (message : Text) : Record := ⟨channel, .debug, message, none⟩

def failure (channel : Channel) (message : Text) (cause : Fault) : Record :=
  ⟨channel, .error, message, some cause⟩

def passes (threshold : Level) (record : Record) : Bool := threshold.rank ≤ record.level.rank

/-- The layout of a shown record. -/
def layout : Text := "%(asctime)s | %(levelname)s | %(name)s | %(message)s"

end Record
end QueryPatch
