import QueryPatch.Fault
import QueryPatch.Text.Newline
import QueryPatch.Text.Pieces
import QueryPatch.Text.Utf8

/-! # Files

How texts are read and where they can be written. `Files` is the case in which all entries below
the working directory are known: a path is followed name by name, and of what is outside only the
directories on the way to the root are known.
-/
set_option autoImplicit false

namespace QueryPatch.CommandLine

/-- Why a path cannot be opened or read. -/
inductive PathFault
  | missing
  | notDirectory
  | isDirectory
  | nameTooLong
  | nul
  /-- Any other error of the system, which says so itself. -/
  | other (message : Text)
  deriving DecidableEq

def PathFault.message (path : Text) : PathFault → Text
  | missing => "[Errno 2] No such file or directory: " ++ Text.quoted path
  | notDirectory => "[Errno 20] Not a directory: " ++ Text.quoted path
  | isDirectory => "[Errno 21] Is a directory: " ++ Text.quoted path
  | nameTooLong => "[Errno 36] File name too long: " ++ Text.quoted path
  | nul => Fault.nulInPath.message
  | other message => message

/-- Why a file does not take a text to its end, while it is written or when it is closed. So many
bytes of the text are in it. -/
structure WriteFault where
  taken : Nat
  message : Text
  deriving DecidableEq

def WriteFault.bytes (fault : WriteFault) (text : Text) : List UInt8 :=
  (Text.encodeUtf8 text).take fault.taken

/-- What a path gives to read, the place at which it can be written, and whether a file at a place
takes all of a text. -/
structure Storage where
  read : Text → Except PathFault (List UInt8)
  writable : Text → Except PathFault Text
  breaks : Text → Text → Option WriteFault := fun _ _ => none

inductive Entry
  | file (bytes : List UInt8)
  | directory
  deriving DecidableEq

/-- Entries by their paths, whose names are set off by slashes. -/
abbrev Files := List (Text × Entry)

/-- A place, by the names that lead to it: from the working directory, above which it starts with
`..`, or from the root, which is an empty name. -/
abbrev Place := List Text

namespace Place

def root : Place := [[]]

/-- Above the root there is the root again. -/
def parent (place : Place) : Place :=
  if place = root then root
  else if place.all (· = ['.', '.']) then place ++ [['.', '.']]
  else place.dropLast

def path (place : Place) : Text := Text.join "/" place

end Place

namespace Files

/-- Limits in bytes on one name and on a path. -/
def maxName : Nat := 255

def maxPath : Nat := 4095

def entry? (files : Files) (place : Place) : Option Entry :=
  if place = Place.root || place.all (· = ['.', '.']) then some .directory
  else files.lookup place.path

/-- Where a name leads to from a directory, and what is there. -/
def find (files : Files) (directory : Place) (name : Text) :
    Except PathFault (Place × Option Entry) :=
  if maxName < (Text.encodeUtf8 name).length then .error .nameTooLong
  else
    let place :=
      if name = ['.'] then directory
      else if name = ['.', '.'] then directory.parent
      else directory ++ [name]
    .ok (place, files.entry? place)

/-- Follows names, each of which has to lead to a directory. -/
def descend (files : Files) (directory : Place) : List Text → Except PathFault Place
  | [] => .ok directory
  | name :: rest => do
    match ← files.find directory name with
    | (place, some .directory) => descend files place rest
    | (_, some (.file _)) => .error .notDirectory
    | (_, none) => .error .missing

/-- The directory in which the last name of a path stands, and that name. A path of slashes alone
ends where it starts. -/
def approach (files : Files) (path : Text) : Except PathFault (Place × Text) := do
  if path.contains '\x00' then .error .nul
  else if maxPath < (Text.encodeUtf8 path).length then .error .nameTooLong
  else if path.isEmpty then .error .missing
  else
    let start := if path.head? = some '/' then Place.root else []
    let names := (Text.pieces '/' [] path).filter (· ≠ [])
    return (← files.descend start names.dropLast, names.getLast?.getD ['.'])

/-- A slash at the end asks for a directory. -/
def asksDirectory (path : Text) : Bool := path.getLast? = some '/'

def read? (files : Files) (path : Text) : Except PathFault (List UInt8) := do
  let (directory, name) ← files.approach path
  match ← files.find directory name with
  | (_, some (.file bytes)) => if asksDirectory path then .error .notDirectory else .ok bytes
  | (_, some .directory) => .error .isDirectory
  | (_, none) => .error .missing

/-- The place of a file that can be written, there or not. A path that asks for a directory is
refused before its last name is looked at. -/
def writable? (files : Files) (path : Text) : Except PathFault Text := do
  let (directory, name) ← files.approach path
  if asksDirectory path then .error .isDirectory
  else
    match ← files.find directory name with
    | (_, some .directory) => .error .isDirectory
    | (place, _) => .ok place.path

/-- Files take all that is written to them. -/
def storage (files : Files) : Storage := { read := files.read?, writable := files.writable? }

end Files

/-- Why a file gives no text. -/
inductive InputFault
  | path (fault : PathFault)
  | encoding (fault : Text.Utf8Fault)
  deriving DecidableEq

/-- One wrong byte is shown; of several only the positions are. -/
def encodingMessage (fault : Text.Utf8Fault) : Text :=
  let wrong : Text :=
    if fault.count = 1 then
      "byte 0x" ++ Text.hex 2 fault.byte.toNat ++ " in position " ++ Text.ofNat fault.position
    else
      "bytes in position " ++ Text.ofNat fault.position ++ "-" ++
        Text.ofNat (fault.position + fault.count - 1)
  let reason : Text := match fault.reason with
    | .start => "invalid start byte"
    | .continuation => "invalid continuation byte"
    | .truncated => "unexpected end of data"
  "'utf-8' codec can't decode " ++ wrong ++ ": " ++ reason

/-- What is said about an input that cannot be read. -/
def InputFault.message (path : Text) : InputFault → Text
  | .path .missing => "ERROR: File not found: " ++ path
  | .path fault => "ERROR: Failed to read input file: " ++ fault.message path
  | .encoding fault => "ERROR: Failed to read input file: " ++ encodingMessage fault

def Storage.text? (storage : Storage) (path : Text) : Except InputFault Text :=
  match storage.read path with
  | .error fault => .error (.path fault)
  | .ok bytes =>
    match Text.decodeUtf8 bytes with
    | .error fault => .error (.encoding fault)
    | .ok text => .ok (Text.unifyNewlines text)

end QueryPatch.CommandLine
