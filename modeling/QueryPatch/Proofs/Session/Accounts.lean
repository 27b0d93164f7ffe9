import Mathlib.Algebra.GroupWithZero.Nat
import QueryPatch.Proofs.Catalog.Usage
import QueryPatch.Proofs.Session.History

/-! # The accounts of the connections

However the connections behave, and however they change: each query closes its cursor, and each
failed question is rolled back once where that can be done.
-/
set_option autoImplicit false

namespace QueryPatch

/-- Each query closed its cursor, and there were so many rollbacks. -/
structure Usage.Balanced (usage : Usage) (rollbacks : Nat) : Prop where
  cursorsClosed_eq : usage.queries.length = usage.cursorsClosed
  rollbacks_eq : usage.rollbacks = rollbacks

theorem Usage.balanced_empty : ({} : Usage).Balanced 0 := ⟨rfl, rfl⟩

theorem Usage.Balanced.append {first second : Usage} {earlier later : Nat}
    (h : first.Balanced earlier) (h' : second.Balanced later) :
    (first ++ second).Balanced (earlier + later) where
  cursorsClosed_eq := by
    change (first.queries ++ second.queries).length = first.cursorsClosed + second.cursorsClosed
    rw [List.length_append, h.cursorsClosed_eq, h'.cursorsClosed_eq]
  rollbacks_eq := by
    change first.rollbacks + second.rollbacks = earlier + later
    rw [h.rollbacks_eq, h'.rollbacks_eq]

theorem Connection.balanced_spent (connection : Connection) (sketchType : Text) :
    (connection.spent sketchType).Balanced (if connection.rollsBack then 1 else 0) where
  cursorsClosed_eq := by
    rw [spent]
    cases connection.cursorFailure <;> rfl
  rollbacks_eq := rfl

/-- Connections on which nothing was done yet. -/
def untouched (connections : Keyed Connection) : Keyed (Connection × Usage) :=
  connections.map fun (name, connection) => (name, connection, {})

theorem get?_untouched (connections : Keyed Connection) (name : Text) :
    Keyed.get? (untouched connections) name =
      (Keyed.get? connections name).map fun connection => (connection, {}) := by
  induction connections with
  | nil => rfl
  | cons entry rest ih =>
    rw [Keyed.get?, Keyed.get?, untouched, List.map_cons, List.lookup_cons, List.lookup_cons]
    cases name == entry.1 with
    | true => rfl
    | false => exact ih

namespace Session

variable {τ ν α : Type}

/-- Through which connections an operation asks the catalog, in order. -/
def asked (patcher : Patcher) (session : Session τ ν) : Operation τ ν α → List (Option Text)
  | .warm name => [name]
  | .patch given name =>
    if session.patchesCold patcher (.patch given name : Operation τ ν α) then [name] else []
  | operation => session.coldGets operation

/-- How many of the questions fail on a connection that can be rolled back. -/
def failedReads (session : Session τ ν) (name : Text) (questions : List (Option Text)) : Nat :=
  match session.connection? (some name) with
  | some connection => if connection.rollsBack then questions.count (some name) else 0
  | none => 0

/-- So many rollbacks were made on the named connection, and each query closed its cursor. -/
def Balanced (session : Session τ ν) (name : Text) (rollbacks : Nat) : Prop :=
  ∀ used, session.usage? name = some used → used.Balanced rollbacks

section use

variable {session : Session τ ν} {other : Text} {rollbacks : Nat}

@[simp] theorem failedReads_nil (session : Session τ ν) (name : Text) :
    session.failedReads name [] = 0 := by
  rw [failedReads]
  split
  · rw [List.count_nil, ite_self]
  · rfl

theorem failedReads_append (session : Session τ ν) (name : Text)
    (earlier later : List (Option Text)) :
    session.failedReads name (earlier ++ later) =
      session.failedReads name earlier + session.failedReads name later := by
  unfold failedReads
  cases session.connection? (some name) with
  | none => rfl
  | some connection =>
    dsimp only
    split
    · exact List.count_append
    · rfl

theorem failedReads_columns (session : Session τ ν) (asking : Option Text) (name : Text)
    (questions : List (Option Text)) :
    (session.columns asking).1.failedReads name questions =
      session.failedReads name questions := by
  rw [failedReads, failedReads, connection?_columns]

theorem failedReads_of_ne {name : Option Text} (session : Session τ ν) (h : name ≠ some other) :
    session.failedReads other [name] = 0 := by
  have hCount : List.count (some other) [name] = 0 := by
    rw [List.count_singleton, if_neg (by simpa using h)]
  rw [failedReads]
  split
  · rw [hCount, ite_self]
  · rfl

theorem connection?_of_get? {entry : Connection × Usage}
    (h : Keyed.get? session.connections other = some entry) :
    session.connection? (some other) = some entry.1 := by
  rw [connection?, Option.bind_eq_bind, Option.bind_some, h]
  rfl

theorem get?_use_populate (session : Session τ ν) (sketchType : Text) (name : Option Text)
    (other : Text) :
    Keyed.get? (session.use name
        (Lookup.populate sketchType (session.connection? name)).usage).connections other =
      (Keyed.get? session.connections other).map fun (connection, used) =>
        (connection, if name = some other then used ++ connection.spent sketchType else used) := by
  rw [get?_use, Lookup.usage_populate]
  cases hEntry : Keyed.get? session.connections other with
  | none => rfl
  | some entry =>
    by_cases hName : name = some other
    · subst hName
      rw [connection?_of_get? hEntry]
      rfl
    · simp only [Option.map_some, if_neg hName]

/-- A question adds a rollback exactly if it fails on a connection that can be rolled back. -/
theorem Balanced.use_populate (h : session.Balanced other rollbacks) (sketchType : Text)
    (name : Option Text) :
    (session.use name (Lookup.populate sketchType (session.connection? name)).usage).Balanced other
      (rollbacks + session.failedReads other [name]) := by
  intro used hUsed
  rw [usage?, get?_use_populate, Option.map_map, Option.map_eq_some_iff] at hUsed
  obtain ⟨⟨connection, before⟩, hEntry, rfl⟩ := hUsed
  have hBefore : before.Balanced rollbacks := h before (by rw [usage?, hEntry]; rfl)
  dsimp only [Function.comp]
  by_cases hName : name = some other
  · subst hName
    rw [if_pos rfl, failedReads, connection?_of_get? hEntry, List.count_singleton_self]
    exact hBefore.append (connection.balanced_spent sketchType)
  · rw [if_neg hName, failedReads_of_ne session hName]
    exact hBefore

/-- A request for the columns asks the catalog only if nothing is held. -/
theorem Balanced.use_of (h : session.Balanced other rollbacks) (name : Option Text) :
    (session.use name (Lookup.of session.facts.sketchType session.facts.held
        (session.connection? name)).usage).Balanced other
      (rollbacks + session.failedReads other (if session.isWarm then [] else [name])) := by
  rw [isWarm]
  cases session.facts.held with
  | none => exact h.use_populate _ name
  | some columns =>
    rw [Option.isSome_some, if_pos rfl, failedReads_nil]
    intro used hUsed
    rw [Lookup.of, usage?_use_empty] at hUsed
    exact h used hUsed

theorem Balanced.hold_use {name : Option Text} {usage : Usage}
    (h : (session.use name usage).Balanced other rollbacks) (held : Option ColumnSet) :
    ((session.hold held).use name usage).Balanced other rollbacks := by
  intro used hUsed
  rw [usage?, get?_use] at hUsed
  apply h
  rw [usage?, get?_use]
  exact hUsed

theorem Balanced.columns (h : session.Balanced other rollbacks) (name : Option Text) :
    (session.columns name).1.Balanced other
      (rollbacks + session.failedReads other (if session.isWarm then [] else [name])) :=
  (h.use_of name).hold_use _

theorem asked_columnsTwice (patcher : Patcher) (session : Session τ ν)
    (first second : Option Text) :
    session.asked patcher (.columnsTwice first second : Operation τ ν α) =
      (if session.isWarm then [] else [first]) ++
        (if (session.columns first).1.isWarm then [] else [second]) := by
  change session.coldGets (.columnsTwice first second : Operation τ ν α) = _
  rw [coldGets]
  by_cases hWarm : session.isWarm = true
  · rw [if_pos hWarm, if_pos hWarm, if_pos (isWarm_columns first hWarm)]
    rfl
  · rw [if_neg hWarm, if_neg hWarm]
    split <;> rfl

theorem balanced_fresh (sketchType : Text) (life clock : τ) (connections : Keyed Connection)
    (name : Text) :
    (fresh sketchType life clock (untouched connections) : Session τ ν).Balanced name 0 := by
  intro used hUsed
  rw [usage?, fresh, get?_untouched, Option.map_map, Option.map_eq_some_iff] at hUsed
  obtain ⟨connection, -, rfl⟩ := hUsed
  exact Usage.balanced_empty

end use

section step

variable [LE τ] [DecidableLE τ] [Add τ] {session : Session τ ν} {name : Text} {rollbacks : Nat}

/-- The report of an operation has one record of each question. -/
theorem length_asked (patcher : Patcher) (session : Session τ ν) (operation : Operation τ ν α) :
    (session.asked patcher operation).length = session.catalogReads patcher operation := by
  rw [catalogReads_eq]
  cases operation with
  | patch given asking =>
    rw [asked]
    cases session.patchesCold patcher (.patch given asking : Operation τ ν α) <;> rfl
  | _ => simp [asked, coldGets, Operation.warms, patchesCold]

theorem Balanced.step_of_asked_eq_nil {patcher : Patcher} {operation : Operation τ ν α}
    (h : session.Balanced name rollbacks) (hAsked : session.asked patcher operation = []) :
    (session.step patcher operation).1.Balanced name
      (rollbacks + session.failedReads name (session.asked patcher operation)) := by
  have hReads : session.catalogReads patcher operation = 0 := by
    rw [← length_asked, hAsked, List.length_nil]
  rw [hAsked, failedReads_nil]
  intro used hUsed
  rw [usage?_step_of_catalogReads_eq_zero hReads] at hUsed
  exact h used hUsed

theorem Balanced.step_patch (patcher : Patcher) (h : session.Balanced name rollbacks)
    (given : Source α) (asking : Option Text) :
    (session.step patcher (.patch given asking)).1.Balanced name
      (rollbacks + session.failedReads name (session.asked patcher (.patch given asking))) := by
  cases hReadings : given.readings? patcher.settings.separator with
  | error fault =>
    apply h.step_of_asked_eq_nil
    rw [asked, patchesCold, hReadings]
    simp [Except.toBool]
  | ok readings =>
    have hOutcome := patcher.outcome_patch session.facts.sketchType session.facts.held
      (session.connection? asking) given
    have hAsked : session.asked patcher (.patch given asking) =
        if session.isWarm then [] else [asking] := by
      rw [asked, patchesCold, hReadings]
      cases session.isWarm <;> rfl
    have hUse := (h.use_of asking).hold_use (patcher.patch session.facts.sketchType
      session.facts.held (session.connection? asking) given).held
    rw [hAsked]
    rw [← (hOutcome.held_of_readable hReadings).2] at hUse
    exact hUse

/-- What one operation preserves. -/
theorem Balanced.step (patcher : Patcher) (h : session.Balanced name rollbacks)
    (operation : Operation τ ν α) :
    (session.step patcher operation).1.Balanced name
      (rollbacks + session.failedReads name (session.asked patcher operation)) := by
  cases operation with
  | columns asking => exact h.columns asking
  | columnsTwice first second =>
    have hSecond := (h.columns first).columns second
    rw [failedReads_columns, Nat.add_assoc, ← failedReads_append] at hSecond
    rw [asked_columnsTwice]
    exact hSecond
  | warm asking => exact (h.use_populate _ asking).hold_use _
  | patch given asking => exact h.step_patch patcher given asking
  | _ => exact h.step_of_asked_eq_nil rfl

end step

end Session

variable {τ ν α : Type} [LE τ] [DecidableLE τ] [Add τ]

namespace Moment

/-- The failed questions of this moment, if the named connection can be rolled back. -/
def failedReads (patcher : Patcher) (name : Text) (moment : Moment τ ν α) : Nat :=
  moment.before.failedReads name (moment.before.asked patcher moment.operation)

end Moment

namespace Session

/-- What a whole run preserves. -/
theorem Balanced.moments {patcher : Patcher} {session : Session τ ν}
    {operations : List (Operation τ ν α)} {past future : List (Moment τ ν α)}
    {moment : Moment τ ν α} {name : Text} {rollbacks : Nat} (h : session.Balanced name rollbacks)
    (hMoments : session.moments patcher operations = past ++ moment :: future) :
    (moment.after patcher).Balanced name
      (rollbacks + ((past ++ [moment]).map (·.failedReads patcher name)).sum) := by
  -- the session at the start moves with the first moment of the past
  induction past generalizing session operations rollbacks with
  | nil =>
    obtain ⟨rfl, -⟩ := moments_eq_cons hMoments
    exact h.step patcher moment.operation
  | cons first past ih =>
    obtain ⟨rfl, others, hRest⟩ := moments_eq_cons hMoments
    rw [List.cons_append, List.map_cons, List.sum_cons, ← Nat.add_assoc]
    exact ih (h.step patcher first.operation) hRest

/-- How a request for the columns ends if nothing is held: it gives a set of columns and no fault,
columns are held exactly if the whole reading succeeds, and the connection that was asked has
spent what the reading costs. -/
structure Requested (session : Session τ ν) (name : Option Text) (lookup : Lookup)
    (ended : Session τ ν × Report ν α) : Prop where
  report_eq : ended.2 = { answer := .columns lookup.columns, log := lookup.log }
  held_eq : ended.1.facts.held = lookup.held
  isWarm_iff : ended.1.isWarm = true ↔ ∃ names, CatalogNames (session.connection? name) names
  settled : lookup.Settled (session.connection? name)
  spent : ∀ other, Keyed.get? ended.1.connections other =
    (Keyed.get? session.connections other).map fun (connection, used) =>
      (connection, if name = some other
        then used ++ connection.spent session.facts.sketchType else used)

theorem requested_columns (patcher : Patcher) {session : Session τ ν} (name : Option Text)
    (hCold : session.facts.held = none) :
    ∃ lookup, session.Requested name lookup
      (session.step patcher (.columns name : Operation τ ν α)) := by
  have hLookup : (session.columns name).2 =
      .populate session.facts.sketchType (session.connection? name) := by
    rw [columns, hCold]
    rfl
  have hHeld := session.held_columns name
  have hSettled : (session.columns name).2.Settled (session.connection? name) := by
    rw [hLookup]
    exact Lookup.settled_populate ..
  refine ⟨(session.columns name).2, rfl, hHeld, ?_, hSettled, fun other => ?_⟩
  · rw [← hSettled.isSome_held_iff, ← hHeld]
    rfl
  · change Keyed.get? ((session.hold (session.columns name).2.held).use name
      (session.columns name).2.usage).connections other = _
    rw [hLookup]
    exact get?_use_populate (session.hold _) session.facts.sketchType name other

/-- If nothing is held, a request for the columns gives a set of columns, however the connection
behaves. Columns are held afterwards exactly if every step of the reading succeeds and every row
begins with a text. Then the set that is given and held is that of the names in lower case, and
nothing is complained of; else it is empty, and there is a record of the failed reading, and a
second one if the rollback fails. On the connection that was asked, each cursor is closed once, and
a failed reading is rolled back once if there is a way to.

Therefore, at any time in a session that starts with unused connections, whatever becomes of these:
a connection closed as many cursors as it ran queries, and was rolled back once for each failed
question that was put to it when it could be. The questions are as many as are reported. -/
theorem requests_accounted (patcher : Patcher) :
    (∀ (session : Session τ ν) (name : Option Text), session.facts.held = none →
      ∃ lookup, session.Requested name lookup
        (session.step patcher (.columns name : Operation τ ν α))) ∧
      (∀ (sketchType : Text) (life clock : τ) (connections : Keyed Connection)
          (operations : List (Operation τ ν α)) (past future : List (Moment τ ν α))
          (moment : Moment τ ν α),
        (fresh sketchType life clock (untouched connections)).moments patcher operations =
            past ++ moment :: future →
          (moment.before.asked patcher moment.operation).length = moment.catalogReads patcher ∧
            ∀ name used, (moment.after patcher).usage? name = some used →
              used.queries.length = used.cursorsClosed ∧
                used.rollbacks = ((past ++ [moment]).map (·.failedReads patcher name)).sum) := by
  constructor
  · intro session name hCold
    exact requested_columns patcher name hCold
  · intro sketchType life clock connections operations past future moment hMoments
    refine ⟨length_asked patcher moment.before moment.operation, fun name used hUsed => ?_⟩
    have hFresh := balanced_fresh (ν := ν) sketchType life clock connections name
    have hBalanced := hFresh.moments hMoments used hUsed
    rw [Nat.zero_add] at hBalanced
    exact ⟨hBalanced.cursorsClosed_eq, hBalanced.rollbacks_eq⟩

/-- A connection fails once, and is repaired before it is asked again. -/
def repairedOperations : List (Operation Nat Nat Unit) :=
  [.columns (some "main"),
    .changeConnection "main" fun connection => { connection with executeFailure := none },
    .columns (some "main")]

def repairedSession : Session Nat Nat :=
  fresh sketchType 0 0 (untouched [("main", { executeFailure := some "no such relation" })])

theorem requests_accounted_repaired :
    (∃ lookup, repairedSession.Requested (some "main") lookup
        (repairedSession.step {} (.columns (some "main") : Operation Nat Nat Unit))) ∧
      ∃ (past : List (Moment Nat Nat Unit)) (moment : Moment Nat Nat Unit) (used : Usage),
        repairedSession.moments {} repairedOperations = past ++ [moment] ∧
          (moment.after {}).usage? "main" = some used ∧ used.queries.length = 2 ∧
            used.queries.length = used.cursorsClosed ∧
            used.rollbacks = ((past ++ [moment]).map (·.failedReads {} "main")).sum := by
  have h := requests_accounted (τ := Nat) (ν := Nat) (α := Unit) {}
  refine ⟨h.1 repairedSession (some "main") rfl, ?_⟩
  let failed := repairedSession
  let changed := (failed.step {} (repairedOperations[0])).1
  let repaired := (changed.step {} (repairedOperations[1])).1
  let used : Usage := ⟨[[sketchType], [sketchType]], 2, 1⟩
  have hMoments : repairedSession.moments {} repairedOperations =
      [⟨failed, repairedOperations[0]⟩, ⟨changed, repairedOperations[1]⟩] ++
        ⟨repaired, repairedOperations[2]⟩ :: [] := rfl
  have hUsed : (Moment.after {} ⟨repaired, repairedOperations[2]⟩).usage? "main" = some used := by
    decide
  have hAccounts := (h.2 sketchType 0 0 _ repairedOperations _ [] _ hMoments).2 "main" used hUsed
  exact ⟨_, _, used, hMoments, hUsed, rfl, hAccounts⟩

end Session

end QueryPatch
