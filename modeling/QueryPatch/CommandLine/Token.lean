import QueryPatch.Text.Digit
import QueryPatch.Text.Pieces
import QueryPatch.Text.Quoted

/-! # Single arguments

What one argument can be, on its own: a value, the mark `--`, or an option. A long option may be
cut short as long as only one option begins like it, and may carry its value after `=`.
-/
set_option autoImplicit false

namespace QueryPatch.CommandLine

inductive Switch
  | help
  | output
  | dialect
  | validate
  | sketchColumn
  | explain
  | requireDatabase
  | verbose
  deriving DecidableEq

namespace Switch

/-- Every spelling, in the order in which options that begin alike are listed. -/
def spellings : List (Text × Switch) :=
  [("-h", help), ("--help", help), ("--output", output), ("-o", output), ("--dialect", dialect),
   ("--validate", validate), ("--hll-column", sketchColumn), ("--explain", explain),
   ("--require-db", requireDatabase), ("--verbose", verbose), ("-v", verbose)]

def ofSpelling? (spelling : Text) : Option Switch := spellings.lookup spelling

def takesValue : Switch → Bool
  | output | dialect | sketchColumn => true
  | help | validate | explain | requireDatabase | verbose => false

/-- All spellings of an option. -/
def label (switch : Switch) : Text :=
  Text.join "/" ((spellings.filter (·.2 = switch)).map (·.1))

end Switch

/-- What can be wrong with the arguments. -/
inductive UsageFault
  | ambiguous (argument : Text) (candidates : List Text)
  | valueMissing (switch : Switch)
  | valueIgnored (switch : Switch) (value : Text)
  | inputMissing
  | unrecognised (arguments : List Text)
  deriving DecidableEq

def UsageFault.message : UsageFault → Text
  | ambiguous argument candidates =>
    "ambiguous option: " ++ argument ++ " could match " ++ Text.join ", " candidates
  | valueMissing switch => "argument " ++ switch.label ++ ": expected one argument"
  | valueIgnored switch value =>
    "argument " ++ switch.label ++ ": ignored explicit argument " ++ Text.quoted value
  | inputMissing => "the following arguments are required: input_file"
  | unrecognised arguments => "unrecognized arguments: " ++ Text.join " " arguments

/-- One argument: a value, the mark after which all are values, or an option, known or not. What
stands in the same argument as an option, after `=` or at once, is attached to it. -/
inductive Token
  | value
  | mark
  | option (switch : Switch) (spelling : Text) (attached : Option Text)
  | unknownOption
  deriving DecidableEq

/-- The argument after which no argument is an option. -/
def mark : Text := "--"

namespace Token

/-- The text up to the first `=`, and the text after it. -/
def cutAtEquals (argument : Text) : Text × Option Text :=
  match argument.dropWhile (· ≠ '=') with
  | [] => (argument, none)
  | _ :: rest => (argument.takeWhile (· ≠ '='), some rest)

/-- The options that an argument may stand for: those that begin with a long one, and the short one
that a run of short ones starts with. -/
def candidates (argument : Text) : List (Switch × Text × Option Text) :=
  match argument with
  | '-' :: '-' :: _ =>
    let (start, given) := cutAtEquals argument
    Switch.spellings.filterMap fun (spelling, switch) =>
      if start.isPrefixOf spelling then some (switch, spelling, given) else none
  | _ =>
    Switch.spellings.filterMap fun (spelling, switch) =>
      if spelling = argument.take 2 then some (switch, spelling, some (argument.drop 2))
      else none

/-- A number after a minus sign is no option. One newline at its end does not count. -/
def isNegativeNumber (argument : Text) : Bool :=
  match argument with
  | '-' :: digits =>
    let body := if digits.getLast? = some '\n' then digits.dropLast else digits
    let isDigit := fun c => (Text.digit? c).isSome
    match body.dropWhile isDigit with
    | [] => !body.isEmpty
    | '.' :: places => !places.isEmpty && places.all isDigit
    | _ => false
  | _ => false

def ofArgument (argument : Text) : Except UsageFault Token :=
  match argument with
  | [] | ['-'] => .ok .value
  | '-' :: _ =>
    match Switch.ofSpelling? argument with
    | some switch => .ok (.option switch argument none)
    | none =>
      match cutAtEquals argument with
      | (spelling, some given) =>
        match Switch.ofSpelling? spelling with
        | some switch => .ok (.option switch spelling (some given))
        | none => ofCandidates
      | (_, none) => ofCandidates
  | _ => .ok .value
where
  ofCandidates : Except UsageFault Token :=
    match candidates argument with
    | [(switch, spelling, attached)] => .ok (.option switch spelling attached)
    | [] =>
      if isNegativeNumber argument || argument.contains ' ' then .ok .value else .ok .unknownOption
    | several => .error (.ambiguous argument (several.map (·.2.1)))

/-- All arguments, read from left to right. -/
def ofArguments : List Text → Except UsageFault (List (Text × Token))
  | [] => .ok []
  | argument :: rest =>
    if argument = CommandLine.mark then .ok ((argument, .mark) :: rest.map (·, .value))
    else do return (argument, ← ofArgument argument) :: (← ofArguments rest)

end Token

end QueryPatch.CommandLine
