import QueryPatch.CommandLine.Token

/-! # Arguments

The command line takes one input file and options. Short options may be run together, and the last
of them may carry its value. After the mark `--` no argument is an option.
-/
set_option autoImplicit false

namespace QueryPatch.CommandLine

/-- What an option asks for. The mark is no value: an option that is given it has none. -/
structure Request where
  switch : Switch
  value : Option Text := none
  deriving DecidableEq

def Request.giving (switch : Switch) (value : Text) : Request :=
  { switch, value := if value = mark then none else some value }

/-- The options that one argument holds: requests that are complete, and an option that still needs
its value from the next argument. -/
structure Bundle where
  requests : List Request
  pending : Option Switch := none

namespace Bundle

def add (request : Request) (bundle : Bundle) : Bundle :=
  { bundle with requests := request :: bundle.requests }

def single (switch : Switch) : Bundle :=
  if switch.takesValue then { requests := [], pending := some switch }
  else { requests := [{ switch }] }

/-- A short option and what follows it in the same argument: its value if it takes one, otherwise
the letters of further short options. -/
def ofRun (switch : Switch) : Text → Except UsageFault Bundle
  | [] => .ok (single switch)
  | letter :: rest =>
    if switch.takesValue then .ok { requests := [.giving switch (letter :: rest)] }
    else
      match Switch.ofSpelling? ['-', letter] with
      | some next => (ofRun next rest).map (add { switch })
      | none => .error (.valueIgnored switch (letter :: rest))

def ofOption (switch : Switch) (spelling : Text) : Option Text → Except UsageFault Bundle
  | none => .ok (single switch)
  | some attached =>
    if switch.takesValue then .ok { requests := [.giving switch attached] }
    else if spelling.length = 2 && !attached.isEmpty then ofRun switch attached
    else .error (.valueIgnored switch attached)

end Bundle

/-- The options as they are set, each with the value it was given, if it has one. -/
structure Options where
  output : Option Text := some "-"
  dialect : Option Text := none
  validates : Bool := false
  sketchColumns : List (Option Text) := []
  explains : Bool := false
  requiresDatabase : Bool := false
  verbose : Bool := false
  deriving DecidableEq

/-- Later values take the place of earlier ones, but columns add up. `none` is a call for help. -/
def Options.serve (options : Options) (request : Request) : Option Options :=
  match request.switch with
  | .help => none
  | .output => some { options with output := request.value }
  | .dialect => some { options with dialect := request.value }
  | .validate => some { options with validates := true }
  | .sketchColumn => some { options with sketchColumns := options.sketchColumns ++ [request.value] }
  | .explain => some { options with explains := true }
  | .requireDatabase => some { options with requiresDatabase := true }
  | .verbose => some { options with verbose := true }

structure Invocation where
  input : Text
  options : Options := {}
  deriving DecidableEq

inductive Arguments
  | invocation (invocation : Invocation)
  | help
  | refused (fault : UsageFault)
  deriving DecidableEq

namespace Arguments

/-- What has been read of the arguments so far. -/
structure Progress where
  input : Option Text := none
  options : Options := {}
  extras : List Text := []

def Progress.finish (progress : Progress) : Arguments :=
  match progress.input with
  | none => .refused .inputMissing
  | some input =>
    if progress.extras.isEmpty then .invocation { input, options := progress.options }
    else .refused (.unrecognised progress.extras)

def Progress.leave (progress : Progress) (argument : Text) : Progress :=
  { progress with extras := progress.extras ++ [argument] }

def Progress.serve (progress : Progress) (requests : List Request) : Option Progress := do
  return { progress with options := ← requests.foldlM Options.serve progress.options }

/-- The first value is the input; a mark beside it is dropped. An option that needs a value takes
the next argument, which has to be one. -/
def read (progress : Progress) : List (Text × Token) → Arguments
  | [] => progress.finish
  | (argument, .value) :: rest =>
    match progress.input, rest with
    | some _, rest => read (progress.leave argument) rest
    | none, (_, .mark) :: rest => read { progress with input := some argument } rest
    | none, rest => read { progress with input := some argument } rest
  | (argument, .mark) :: rest =>
    match progress.input, rest with
    | none, (value, .value) :: rest => read { progress with input := some value } rest
    | _, rest => read (progress.leave argument) rest
  | (argument, .unknownOption) :: rest => read (progress.leave argument) rest
  | (_, .option switch spelling attached) :: rest =>
    match Bundle.ofOption switch spelling attached with
    | .error fault => .refused fault
    | .ok bundle =>
      match bundle.pending, rest with
      | none, rest =>
        match progress.serve bundle.requests with
        | some progress => read progress rest
        | none => .help
      | some pending, (value, .value) :: rest =>
        match progress.serve (bundle.requests ++ [.giving pending value]) with
        | some progress => read progress rest
        | none => .help
      | some pending, _ => .refused (.valueMissing pending)

def ofList (arguments : List Text) : Arguments :=
  match Token.ofArguments arguments with
  | .ok tokens => read {} tokens
  | .error fault => .refused fault

end Arguments
end QueryPatch.CommandLine
