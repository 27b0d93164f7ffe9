import QueryPatch.Proofs.Patch.Boundary
import QueryPatch.Proofs.Session.Decision

/-! # How often the catalog is asked

Each question to the catalog is reported once, before its connection is touched, so the reports of
an operation tell how often it asked.
-/
set_option autoImplicit false

namespace QueryPatch

theorem Lookup.Looked.count_log {held : Option ColumnSet} {connection : Option Connection}
    {lookup : Lookup} (h : Looked held connection lookup) :
    lookup.log.count .catalogQuery = if held.isSome then 0 else 1 := by
  cases h with
  | held hHeld =>
    rw [hHeld]
    rfl
  | read hCold _ _ _ hCount | failed hCold _ _ _ hCount =>
    rw [hCount, hCold]
    rfl

theorem Lookup.Looked.usage_of_warm {held : Option ColumnSet} {connection : Option Connection}
    {lookup : Lookup} (h : Looked held connection lookup) (hWarm : held.isSome = true) :
    lookup.usage = {} := by
  cases h with
  | held => rfl
  | read hCold | failed hCold =>
    rw [hCold] at hWarm
    cases hWarm

namespace Patcher.Outcome

variable {α : Type} {patcher : Patcher} {held : Option ColumnSet} {lookup : Lookup}
  {given : Source α} {patched : Patched α}

theorem count_log_of_unreadable {fault : Fault} (h : Outcome patcher held lookup given patched)
    (hError : given.readings? patcher.settings.separator = .error fault) :
    patched.log.count .catalogQuery = 0 := by
  cases h with
  | unreadable => exact Log.count_catalogQuery_singleton fun h => by cases h
  | ruleFailed hReadings | unchanged hReadings | rejected hReadings | accepted hReadings =>
    rw [hReadings] at hError
    cases hError

theorem count_log_of_readable {readings : List Reading}
    (h : Outcome patcher held lookup given patched)
    (hReadings : given.readings? patcher.settings.separator = .ok readings) :
    patched.log.count .catalogQuery = lookup.log.count .catalogQuery := by
  have hBefore : ∀ readings, given.readings? patcher.settings.separator = .ok readings →
      (readings.flatMap (·.log) ++ lookup.log).count .catalogQuery =
        lookup.log.count .catalogQuery := by
    intro readings hReadings
    rw [List.count_append, Log.count_catalogQuery_eq_zero, Nat.zero_add]
    intro record hMem
    rw [Source.channel_of_mem_readings hReadings record hMem]
    nofun
  have hFailure (fault : Fault) : List.count .catalogQuery [failure fault] = 0 :=
    Log.count_catalogQuery_singleton fun h => by cases h
  cases h with
  | unreadable hError =>
    rw [hReadings] at hError
    cases hError
  | ruleFailed hReadings | rejected hReadings =>
    rw [List.count_append, hBefore _ hReadings, hFailure, Nat.add_zero]
  | unchanged hReadings => exact hBefore _ hReadings
  | @accepted _ candidate hReadings =>
    -- the last record goes to the trace of query texts as well, but opens with another word
    have hOther : Record.debug .queries ("rewritten to:\n" ++ candidate) ≠ .catalogQuery := by
      intro hSame
      have hHead := congrArg (fun record => record.message.head?) hSame
      cases hHead
    rw [List.count_append, hBefore _ hReadings, List.count_singleton,
      if_neg (by simpa using hOther), Nat.add_zero]

end Patcher.Outcome

def Operation.warms {τ ν α : Type} : Operation τ ν α → Bool
  | .warm _ => true
  | _ => false

namespace Session

variable {τ ν α : Type}

/-- The requests for the columns that find nothing held. -/
def coldGets (session : Session τ ν) : Operation τ ν α → List (Option Text)
  | .columns name => if session.isWarm then [] else [name]
  | .columnsTwice first second =>
    if session.isWarm then []
    else if (session.columns first).1.isWarm then [first] else [first, second]
  | _ => []

/-- Whether something that can be cut into lines is to be patched while nothing is held. -/
def patchesCold (patcher : Patcher) (session : Session τ ν) : Operation τ ν α → Bool
  | .patch given _ => !session.isWarm && (given.readings? patcher.settings.separator).isOk
  | _ => false

def usage? (session : Session τ ν) (name : Text) : Option Usage :=
  (Keyed.get? session.connections name).map Prod.snd

theorem count_log_columns (session : Session τ ν) (name : Option Text) :
    (session.columns name).2.log.count .catalogQuery = if session.isWarm then 0 else 1 :=
  (session.looked_columns name).count_log

theorem isWarm_columns {session : Session τ ν} (name : Option Text) (h : session.isWarm = true) :
    (session.columns name).1.isWarm = true := by
  rw [isWarm, held_columns_eq_self]
  · exact h
  · intro hCold
    rw [isWarm, hCold] at h
    cases h

theorem usage?_use_empty (session : Session τ ν) (name : Option Text) (other : Text) :
    (session.use name {}).usage? other = session.usage? other := by
  rw [usage?, usage?, get?_use_empty]

theorem usage?_columns {session : Session τ ν} (name : Option Text) (h : session.isWarm = true)
    (other : Text) : (session.columns name).1.usage? other = session.usage? other := by
  have hUsage := (session.looked_columns name).usage_of_warm h
  rw [columns] at hUsage ⊢
  dsimp only at hUsage ⊢
  rw [look, hUsage, usage?_use_empty]
  rfl

variable [LE τ] [DecidableLE τ] [Add τ]

/-- How often the operation asks the catalog. -/
def catalogReads (patcher : Patcher) (session : Session τ ν) (operation : Operation τ ν α) : Nat :=
  (session.step patcher operation).2.log.count .catalogQuery

theorem catalogReads_eq (patcher : Patcher) (session : Session τ ν) (operation : Operation τ ν α) :
    session.catalogReads patcher operation =
      (if operation.warms then 1 else 0) + (session.coldGets operation).length +
        (if session.patchesCold patcher operation then 1 else 0) := by
  cases operation with
  | columns name =>
    rw [catalogReads, step, session.count_log_columns]
    cases h : session.isWarm <;> simp [Operation.warms, coldGets, patchesCold, h]
  | columnsTwice first second =>
    rw [catalogReads, step]
    dsimp only
    rw [List.count_append, count_log_columns, count_log_columns]
    by_cases h : session.isWarm = true
    · simp [Operation.warms, coldGets, patchesCold, h, isWarm_columns first h]
    · cases hFirst : (session.columns first).1.isWarm <;>
        simp [Operation.warms, coldGets, patchesCold, h, hFirst]
  | warm name => exact Lookup.count_log_populate ..
  | patch given name =>
    have hOutcome := patcher.outcome_patch session.facts.sketchType session.facts.held
      (session.connection? name) given
    rw [catalogReads, step]
    cases hReadings : given.readings? patcher.settings.separator with
    | error fault =>
      rw [hOutcome.count_log_of_unreadable hReadings]
      simp [Operation.warms, coldGets, patchesCold, hReadings, Except.toBool]
    | ok readings =>
      rw [hOutcome.count_log_of_readable hReadings, (Lookup.looked_of ..).count_log]
      cases hHeld : session.facts.held <;>
        simp [Operation.warms, coldGets, patchesCold, hReadings, Except.toBool, isWarm, hHeld]
  | seed seed =>
    rw [catalogReads, step]
    split <;> rfl
  | setSize table count => cases count <;> rfl
  | changeConnection name change =>
    rw [catalogReads, step]
    split <;> rfl
  | forgetColumns | validate | isSmall | putRange | getRange | forgetTables | setClock => rfl

/-- Without a question to the catalog, nothing is done on any connection. -/
theorem usage?_step_of_catalogReads_eq_zero {patcher : Patcher} {session : Session τ ν}
    {operation : Operation τ ν α} (h : session.catalogReads patcher operation = 0) (other : Text) :
    (session.step patcher operation).1.usage? other = session.usage? other := by
  cases operation with
  | columns name =>
    rw [catalogReads_eq] at h
    have hWarm : session.isWarm = true := by
      cases hCold : session.isWarm with
      | true => rfl
      | false => simp [Operation.warms, coldGets, patchesCold, hCold] at h
    exact usage?_columns name hWarm other
  | columnsTwice first second =>
    rw [catalogReads_eq] at h
    have hWarm : session.isWarm = true := by
      cases hCold : session.isWarm with
      | true => rfl
      | false =>
        cases hFirst : (session.columns first).1.isWarm <;>
          simp [Operation.warms, coldGets, patchesCold, hCold, hFirst] at h
    change ((session.columns first).1.columns second).1.usage? other = _
    rw [usage?_columns second (isWarm_columns first hWarm), usage?_columns first hWarm]
  | warm name =>
    rw [catalogReads_eq, Operation.warms] at h
    simp at h
  | patch given name =>
    have hOutcome := patcher.outcome_patch session.facts.sketchType session.facts.held
      (session.connection? name) given
    have hUsage : (patcher.patch session.facts.sketchType session.facts.held
        (session.connection? name) given).usage = {} := by
      cases hReadings : given.readings? patcher.settings.separator with
      | error fault => exact (hOutcome.held_of_unreadable hReadings).2
      | ok readings =>
        have hLooked := Lookup.looked_of session.facts.sketchType session.facts.held
          (session.connection? name)
        rw [(hOutcome.held_of_readable hReadings).2]
        apply hLooked.usage_of_warm
        cases hHeld : session.facts.held with
        | some columns => rfl
        | none =>
          rw [catalogReads_eq] at h
          simp [Operation.warms, coldGets, patchesCold, hReadings, Except.toBool, isWarm,
            hHeld] at h
    simp only [step, hUsage]
    exact usage?_use_empty ..
  | seed seed =>
    rw [step]
    split <;> rfl
  | setSize table count => cases count <;> rfl
  | changeConnection name change =>
    cases hConnection : Keyed.get? session.connections name with
    | none => simp only [step, hConnection]
    | some entry =>
      simp only [step, hConnection, usage?, Keyed.get?_put]
      by_cases hSame : other = name
      · rw [if_pos hSame, hSame, hConnection]
        rfl
      · rw [if_neg hSame]
  | forgetColumns | validate | isSmall | putRange | getRange | forgetTables | setClock => rfl

end Session

end QueryPatch
