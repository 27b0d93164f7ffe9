import QueryPatch.Line.Shape
import QueryPatch.Log

/-! # Reading one line

A line is judged by the keyword line that came last before it. Matchers are tried in order, all of
them; a later one that accepts the line classifies it anew.
-/
set_option autoImplicit false

namespace QueryPatch

/-- The part of a query in which a line stands. -/
inductive Clause
  | outside
  | select
  | source
  | filter
  | groupBy
  | orderBy
  deriving DecidableEq

/-- The clause that a keyword line opens. -/
def Keyword.opens : Keyword → Clause
  | .select => .select
  | .source => .source
  | .filter | .conjunct => .filter
  | .groupBy => .groupBy
  | .orderBy => .orderBy

/-- A line shape that is looked for in certain clauses. -/
structure Recogniser where
  name : Text
  clauses : List Clause
  shape? : Text → Option Shape

namespace Recogniser

def aggregation : Recogniser := ⟨"select_aggregation", [.select], Shape.aggregation?⟩

def table : Recogniser := ⟨"table", [.source], Shape.table?⟩

def join : Recogniser := ⟨"join_condition", [.filter], Shape.join?⟩

def condition : Recogniser := ⟨"condition", [.filter], Shape.condition?⟩

def standard : List Recogniser := [aggregation, table, join, condition]

end Recogniser

/-- A recogniser, or a classification that does not look at the line. -/
inductive Matcher
  | recogniser (recogniser : Recogniser)
  | forced (name : Text) (clauses : List Clause)
      (classification : Option (Role × List Setting)) (accepts : Bool)

/-- One line read: the fragment, what it declares in order, and what was reported. -/
structure Reading where
  fragment : Fragment
  aliases : List Text := []
  joins : List Text := []
  log : Log := []
  deriving DecidableEq

namespace Reading

def ofLine (line : Text) : Reading := { fragment := { text := line } }

def report (name text : Text) : Record := .debug .reading (name ++ ": " ++ text)

def accept (reading : Reading) (name text : Text) (shape : Shape) : Reading where
  fragment := { reading.fragment with role := shape.role, attributes := shape.attributes }
  aliases := reading.aliases ++ shape.declaredAlias?.toList
  joins := reading.joins ++ shape.joinedAlias?.toList
  log := reading.log ++ [report name text]

def recognise (clause : Clause) (text : Text) (reading : Reading) (recogniser : Recogniser) :
    Reading :=
  if recogniser.clauses.contains clause then
    match recogniser.shape? text with
    | some shape => reading.accept recogniser.name text shape
    | none => reading
  else reading

/-- The line outside keywords: `text` is what the recognisers see of it. -/
def judge (recognisers : List Recogniser) (clause : Clause) (text : Text) (reading : Reading) :
    Reading :=
  recognisers.foldl (recognise clause text) reading

/-- A line is stripped before it is judged. -/
def ofPlainLine (recognisers : List Recogniser) (clause : Clause) (line : Text) : Reading :=
  judge recognisers clause (Text.strip line) (ofLine line)

def ofKeyword (keyword : Keyword) (line : Text) : Reading :=
  { fragment := { text := line, role := .keyword keyword } }

def attempt (clause : Clause) (text : Text) (reading : Reading) : Matcher → Reading × Option Fault
  | .recogniser recogniser => (reading.recognise clause text recogniser, none)
  | .forced name clauses classification accepts =>
    if clauses.contains clause then
      let (fragment, fault) := match classification with
        | some (role, settings) => reading.fragment.classify role settings
        | none => (reading.fragment, none)
      let reading := { reading with fragment }
      if fault.isNone && accepts then
        ({ reading with log := reading.log ++ [report name text] }, none)
      else (reading, fault)
    else (reading, none)

/-- Matchers in order, up to the first fault. -/
def attemptAll (clause : Clause) (text : Text) : Reading → List Matcher → Reading × Option Fault
  | reading, [] => (reading, none)
  | reading, matcher :: rest =>
    match reading.attempt clause text matcher with
    | (changed, none) => attemptAll clause text changed rest
    | (changed, some fault) => (changed, some fault)

theorem attemptAll_recognisers (clause : Clause) (text : Text) (recognisers : List Recogniser)
    (reading : Reading) :
    attemptAll clause text reading (recognisers.map .recogniser) =
      (reading.judge recognisers clause text, none) := by
  induction recognisers generalizing reading with
  | nil => rfl
  | cons recogniser rest ih => simpa [attemptAll, attempt, judge] using ih _

end Reading

/-- The lines of a query, each judged in the clause that the keyword lines before it have opened. -/
def readLines (recognisers : List Recogniser) : Clause → List Text → List Reading
  | _, [] => []
  | clause, line :: rest =>
    match Keyword.ofText? line with
    | some keyword => .ofKeyword keyword line :: readLines recognisers keyword.opens rest
    | none => .ofPlainLine recognisers clause line :: readLines recognisers clause rest

theorem length_readLines (recognisers : List Recogniser) (clause : Clause) (lines : List Text) :
    (readLines recognisers clause lines).length = lines.length := by
  induction lines generalizing clause with
  | nil => rfl
  | cons line rest ih => rw [readLines]; split <;> simp [ih]

end QueryPatch
