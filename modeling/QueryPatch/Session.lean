import QueryPatch.Facts.Tables
import QueryPatch.Patch.Basic

/-! # Sessions

A patcher at work over time: facts that are held between queries, a clock, and named connections
whose behaviour may change. Each operation gives an answer and a report.
-/
set_option autoImplicit false

namespace QueryPatch

/-- All that is known about the database. -/
structure Facts (τ ν : Type) where
  sketchType : Text := QueryPatch.sketchType
  /-- How long a window of ranges stays open. -/
  life : τ
  held : Option ColumnSet := none
  sizes : Keyed Bool := []
  window : Option (Window τ ν) := none

structure Session (τ ν : Type) where
  facts : Facts τ ν
  clock : τ
  connections : Keyed (Connection × Usage) := []

/-- Operations name a connection, or none. Times are of type `τ`, bounds of ranges of type `ν`. -/
inductive Operation (τ ν α : Type)
  | columns (connection : Option Text)
  /-- Two ask at once: the second waits for the first. -/
  | columnsTwice (first second : Option Text)
  | warm (connection : Option Text)
  | seed (columns : Seed)
  | forgetColumns
  | patch (given : Source α) (connection : Option Text)
  | validate (text : Text)
  | setSize (table : Text) (count : Option RowCount)
  | isSmall (table : Text)
  | putRange (key : Text) (low high : ν)
  | getRange (key : Text)
  | forgetTables
  | setClock (now : τ)
  | changeConnection (connection : Text) (change : Connection → Connection)

inductive Answer (ν α : Type)
  | nothing
  | columns (columns : ColumnSet)
  | columnsTwice (first second : ColumnSet)
  | source (source : Source α)
  | size (isSmall : Option Bool)
  | range (range : Option (ν × ν))
  | fault (fault : Fault)

structure Report (ν α : Type) where
  answer : Answer ν α
  log : Log := []
  validated : List (Text × Text) := []

namespace Session

variable {τ ν α : Type}

def connection? (session : Session τ ν) (name : Option Text) : Option Connection := do
  return (← Keyed.get? session.connections (← name)).1

def isWarm (session : Session τ ν) : Bool := session.facts.held.isSome

def hold (session : Session τ ν) (held : Option ColumnSet) : Session τ ν :=
  { session with facts := { session.facts with held } }

/-- Counts what was done on a named connection. -/
def use (session : Session τ ν) (name : Option Text) (usage : Usage) : Session τ ν :=
  match name with
  | none => session
  | some name =>
    match Keyed.get? session.connections name with
    | none => session
    | some (connection, used) =>
      { session with connections := Keyed.put session.connections name (connection, used ++ usage) }

def look (session : Session τ ν) (name : Option Text) (lookup : Lookup) : Session τ ν :=
  (session.hold lookup.held).use name lookup.usage

def columns (session : Session τ ν) (name : Option Text) : Session τ ν × Lookup :=
  let lookup := Lookup.of session.facts.sketchType session.facts.held (session.connection? name)
  (session.look name lookup, lookup)

variable [LE τ] [DecidableLE τ] [Add τ]

def step (patcher : Patcher) (session : Session τ ν) : Operation τ ν α → Session τ ν × Report ν α
  | .columns name =>
    let (session, lookup) := session.columns name
    (session, { answer := .columns lookup.columns, log := lookup.log })
  | .columnsTwice first second =>
    let (session, earlier) := session.columns first
    let (session, later) := session.columns second
    (session,
      { answer := .columnsTwice earlier.columns later.columns, log := earlier.log ++ later.log })
  | .warm name =>
    let lookup := Lookup.populate session.facts.sketchType (session.connection? name)
    (session.look name lookup, { answer := .columns lookup.columns, log := lookup.log })
  | .seed seed =>
    match seed.columns? with
    | .ok columns => (session.hold (some columns), { answer := .nothing })
    | .error fault => (session, { answer := .fault fault })
  | .forgetColumns => (session.hold none, { answer := .nothing })
  | .patch given name =>
    let patched :=
      patcher.patch session.facts.sketchType session.facts.held (session.connection? name) given
    ((session.hold patched.held).use name patched.usage,
      { answer := .source patched.answer, log := patched.log, validated := patched.validated })
  | .validate text =>
    (session,
      { answer := match (patcher.validator text).fault? with
          | some fault => .fault fault
          | none => .nothing
        validated := [(text, patcher.settings.dialect)] })
  | .setSize table count =>
    match count with
    | none => (session, { answer := .fault .rowCountNotNumber })
    | some count =>
      let sizes := Keyed.put session.facts.sizes table count.isSmall
      ({ session with facts := { session.facts with sizes } },
        { answer := .size (some count.isSmall) })
  | .isSmall table => (session, { answer := .size (Keyed.get? session.facts.sizes table) })
  | .putRange key low high =>
    let window := Window.put session.facts.life session.clock session.facts.window key (low, high)
    ({ session with facts := { session.facts with window := some window } }, { answer := .nothing })
  | .getRange key =>
    let window := Window.current session.clock session.facts.window
    ({ session with facts := { session.facts with window } },
      { answer := .range (Window.get? session.clock session.facts.window key) })
  | .forgetTables =>
    ({ session with facts := { session.facts with sizes := [], window := none } },
      { answer := .nothing })
  | .setClock now => ({ session with clock := now }, { answer := .nothing })
  | .changeConnection name change =>
    match Keyed.get? session.connections name with
    | none => (session, { answer := .nothing })
    | some (connection, used) =>
      let connections := Keyed.put session.connections name (change connection, used)
      ({ session with connections }, { answer := .nothing })

/-- Each report with the session after its operation. -/
def run (patcher : Patcher) : Session τ ν → List (Operation τ ν α) →
    List (Session τ ν × Report ν α)
  | _, [] => []
  | session, operation :: rest =>
    let (changed, report) := session.step patcher operation
    (changed, report) :: run patcher changed rest

end Session
end QueryPatch
