import QueryPatch.Fault
import QueryPatch.Fragment.Role
import QueryPatch.Fragment.Attributes

/-! # Fragments

A fragment is one line of a query with its role, its attributes, and the line that takes its place,
if any. A line is classified as often as one likes, each time anew; it is replaced at most once.
-/
set_option autoImplicit false

namespace QueryPatch

structure Fragment where
  text : Text
  replacement : Option Text := none
  role : Role := .text
  attributes : Attributes := {}
  deriving DecidableEq

/-- An attribute to be set, by name; the name may be none that a line has, or one that stands for
the line or its role, which a classification is given already. -/
inductive Setting
  | name (field : Field) (value : Option Text)
  | hasNext (value : Bool)
  | unknown (name : Text)
  | reserved (name : Text)
  deriving DecidableEq

namespace Setting

def apply (attributes : Attributes) : Setting → Except Fault Attributes
  | name field value => .ok (attributes.set value field)
  | hasNext value => .ok { attributes with hasNext := value }
  | unknown other => .error (.unknownAttribute other)
  | reserved other => .error (.reservedAttribute other)

def reserved? : Setting → Option Fault
  | reserved other => some (.reservedAttribute other)
  | _ => none

/-- Settings take effect in order, up to the first unknown name. -/
def applyAll : Attributes → List Setting → Attributes × Option Fault
  | attributes, [] => (attributes, none)
  | attributes, setting :: rest =>
    match setting.apply attributes with
    | .ok changed => applyAll changed rest
    | .error fault => (attributes, some fault)

end Setting

namespace Fragment

/-- The line as it is written out. -/
def rendered (fragment : Fragment) : Text := fragment.replacement.getD fragment.text

/-- Attributes of an earlier classification are forgotten first, also if a name is unknown. With a
reserved name nothing changes. -/
def classify (fragment : Fragment) (role : Role) (settings : List Setting) :
    Fragment × Option Fault :=
  match settings.findSome? Setting.reserved? with
  | some fault => (fragment, some fault)
  | none =>
    let (attributes, fault) := Setting.applyAll {} settings
    ({ fragment with role, attributes }, fault)

/-- To replace by nothing is no replacement. -/
def replace (fragment : Fragment) (line : Option Text) : Except Fault Fragment :=
  match fragment.replacement with
  | some _ => .error (.alreadyReplaced fragment.text)
  | none => .ok { fragment with replacement := line }

end Fragment
end QueryPatch
