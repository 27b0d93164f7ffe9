import QueryPatch.Facts.Columns
import QueryPatch.Patch.Settings
import QueryPatch.Patch.Validation

/-! # Patching

A query is read, its rules are applied, and it is written again. Whatever goes wrong on the way is
reported, and the query is handed back as it was given.
-/
set_option autoImplicit false

namespace QueryPatch

/-- What is given to be patched: a text, or something else that is handed back untouched. -/
inductive Source (α : Type)
  | text (text : Text)
  | bytes (bytes : List UInt8)
  | other (value : α)
  deriving DecidableEq

structure Patcher where
  settings : Settings := {}
  rules : List Rule := Rule.standard
  validator : Validator := Validator.acceptAll

/-- The answer, what is held after it, what was done on the connection, what was reported, and each
text that was validated, with its dialect. -/
structure Patched (α : Type) where
  answer : Source α
  held : Option ColumnSet
  usage : Usage := {}
  log : Log := []
  validated : List (Text × Text) := []

namespace Source

variable {α : Type}

def readings? (separator : Text) : Source α → Except Fault (List Reading)
  | text given => Query.readings? Recogniser.standard separator given
  | bytes _ => .error .bytesNotText
  | other _ => .error .notText

end Source

namespace Patcher

variable {α : Type}

/-- Texts validated on the way, and the fault of the validation, if any. -/
def check (patcher : Patcher) (candidate : Text) : List (Text × Text) × Option Fault :=
  if patcher.settings.validates then
    ([(candidate, patcher.settings.dialect)], (patcher.validator candidate).fault?)
  else ([], none)

def failure (fault : Fault) : Record := .failure .patching "Error in SqlRewriter.rewrite()" fault

/-- The second half of patching, once the columns are known. -/
def finish (patcher : Patcher) (given : Source α) (readings : List Reading) (lookup : Lookup) :
    Patched α :=
  let log := readings.flatMap (·.log) ++ lookup.log
  let kept : Patched α := { answer := given, held := lookup.held, usage := lookup.usage, log }
  match Rule.applyAll lookup.columns patcher.rules (.ofReadings readings) with
  | (_, .error fault) => { kept with log := log ++ [failure fault] }
  | (_, .ok false) => kept
  | (query, .ok true) =>
    let candidate := query.rendered patcher.settings.separator
    match patcher.check candidate with
    | (validated, some fault) => { kept with log := log ++ [failure fault], validated }
    | (validated, none) =>
      { kept with
        answer := .text candidate
        log := log ++ [.debug .queries ("rewritten to:\n" ++ candidate)]
        validated }

/-- The catalog is not asked for what cannot be read as lines. -/
def patch (patcher : Patcher) (sketchType : Text) (held : Option ColumnSet)
    (connection : Option Connection) (given : Source α) : Patched α :=
  match given.readings? patcher.settings.separator with
  | .error fault => { answer := given, held, log := [failure fault] }
  | .ok readings => patcher.finish given readings (.of sketchType held connection)

end Patcher
end QueryPatch
