import QueryPatch.Fault

/-! # Validation

A validator judges the text of a patched query in a dialect. That a text does not parse is one
verdict; that the validator itself fails is another.
-/
set_option autoImplicit false

namespace QueryPatch

inductive Verdict
  | accepted
  | doesNotParse (message : Text)
  | failed (message : Text)
  deriving DecidableEq

def Verdict.fault? : Verdict → Option Fault
  | accepted => none
  | doesNotParse message => some (.rejected message)
  | failed message => some (.validatorFailed message)

abbrev Validator := Text → Verdict

namespace Validator

def acceptAll : Validator := fun _ => .accepted

/-- Gives the verdict on every text in which `part` stands, and accepts the others. -/
def onPart (part : Text) (verdict : Verdict) : Validator :=
  fun text => if Text.occursIn part text then verdict else .accepted

end Validator
end QueryPatch
