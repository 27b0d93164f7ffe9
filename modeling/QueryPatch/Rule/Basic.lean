import QueryPatch.Query.Basic
import QueryPatch.Query.Column

/-! # Rules

A rule proposes lines to be replaced and then says whether it has changed the query, or fails. The
rules of a list all run, in order, up to the first fault; replacements made before it stay.
-/
set_option autoImplicit false

namespace QueryPatch

/-- A line counted from 0, or from -1 backwards, and the text to take its place. -/
structure Edit where
  line : Int
  text : Text
  deriving DecidableEq

structure Rule where
  name : Text := "rule"
  edits : Query → ColumnSet → List Edit
  ending : Query → ColumnSet → Except Fault Bool

namespace Query

def position? (query : Query) (line : Int) : Option Nat :=
  let position := if line < 0 then line + query.fragments.length else line
  if 0 ≤ position ∧ position < query.fragments.length then some position.toNat else none

def replaceAt (query : Query) (position : Nat) (line : Text) : Except Fault Query :=
  match query.fragments[position]? with
  | none => .error .noSuchLine
  | some fragment =>
    (fragment.replace (some line)).map fun changed =>
      { query with fragments := query.fragments.set position changed }

def edit (query : Query) (edit : Edit) : Except Fault Query :=
  match query.position? edit.line with
  | none => .error .noSuchLine
  | some position => query.replaceAt position edit.text

/-- Edits in order, up to the first fault. -/
def editAll : Query → List Edit → Query × Option Fault
  | query, [] => (query, none)
  | query, next :: rest =>
    match query.edit next with
    | .ok changed => editAll changed rest
    | .error fault => (query, some fault)

/-- The lines that were replaced, with their replacements. -/
def replacements (query : Query) : List (Nat × Text) :=
  query.fragments.zipIdx.filterMap fun (fragment, line) => fragment.replacement.map (line, ·)

end Query

namespace Rule

def apply (rule : Rule) (columns : ColumnSet) (query : Query) : Query × Except Fault Bool :=
  match query.editAll (rule.edits query columns) with
  | (edited, none) => (edited, rule.ending query columns)
  | (edited, some fault) => (edited, .error fault)

/-- Whether any rule has changed the query. -/
def applyAll (columns : ColumnSet) : List Rule → Query → Query × Except Fault Bool
  | [], query => (query, .ok false)
  | rule :: rest, query =>
    match rule.apply columns query with
    | (edited, .error fault) => (edited, .error fault)
    | (edited, .ok changed) =>
      let (final, outcome) := applyAll columns rest edited
      (final, outcome.map (changed || ·))

/-- Does the same to every query. -/
def fixed (edits : List Edit) (ending : Except Fault Bool) : Rule where
  edits _ _ := edits
  ending _ _ := ending

/-- A rule that was given no action. -/
def undefined : Rule := fixed [] (.error .ruleWithoutAction)

end Rule
end QueryPatch
