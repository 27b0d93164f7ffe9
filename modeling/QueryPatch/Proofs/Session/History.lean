import QueryPatch.Proofs.Session.Reads

/-! # The history of the columns held

What a session holds at any time was decided by the last operation that decides anything, and only
operations that find nothing held, or warm, ask the catalog.
-/
set_option autoImplicit false

namespace QueryPatch

variable {τ ν α : Type} [LE τ] [DecidableLE τ] [Add τ]

/-- An operation, and the session in which it is done. -/
structure Moment (τ ν α : Type) where
  before : Session τ ν
  operation : Operation τ ν α

namespace Moment

def after (patcher : Patcher) (moment : Moment τ ν α) : Session τ ν :=
  (moment.before.step patcher moment.operation).1

def report (patcher : Patcher) (moment : Moment τ ν α) : Report ν α :=
  (moment.before.step patcher moment.operation).2

def Decides (patcher : Patcher) (moment : Moment τ ν α) (decision : Option (List Text)) : Prop :=
  moment.before.Decides patcher moment.operation decision

def catalogReads (patcher : Patcher) (moment : Moment τ ν α) : Nat :=
  moment.before.catalogReads patcher moment.operation

end Moment

/-- Nothing in the history decides what is held. -/
def Undecided (patcher : Patcher) (history : List (Moment τ ν α)) : Prop :=
  ∀ moment ∈ history, ∀ decision, ¬ moment.Decides patcher decision

/-- The decision of the last moment in the history that decides what is held. -/
inductive LastDecision (patcher : Patcher) :
    List (Moment τ ν α) → Option (List Text) → Prop
  | here {moment : Moment τ ν α} {rest : List (Moment τ ν α)} {decision : Option (List Text)} :
      moment.Decides patcher decision → Undecided patcher rest →
      LastDecision patcher (moment :: rest) decision
  | later {moment : Moment τ ν α} {rest : List (Moment τ ν α)} {decision : Option (List Text)} :
      LastDecision patcher rest decision → LastDecision patcher (moment :: rest) decision

namespace Session

/-- A session at its start: no facts are held yet. -/
def fresh (sketchType : Text) (life clock : τ) (connections : Keyed (Connection × Usage)) :
    Session τ ν :=
  { facts := { sketchType, life }, clock, connections }

def moments (patcher : Patcher) : Session τ ν → List (Operation τ ν α) → List (Moment τ ν α)
  | _, [] => []
  | session, operation :: rest =>
    ⟨session, operation⟩ :: moments patcher (session.step patcher operation).1 rest

theorem run_eq_map_moments (patcher : Patcher) (session : Session τ ν)
    (operations : List (Operation τ ν α)) :
    session.run patcher operations =
      (session.moments patcher operations).map fun moment =>
        (moment.after patcher, moment.report patcher) := by
  induction operations generalizing session with
  | nil => rfl
  | cons operation rest ih =>
    rw [run, moments, List.map_cons, ← ih]
    rfl

variable {patcher : Patcher} {session : Session τ ν} {operations : List (Operation τ ν α)}
  {past future : List (Moment τ ν α)} {moment : Moment τ ν α}

theorem moments_eq_cons {rest : List (Moment τ ν α)}
    (h : session.moments patcher operations = moment :: rest) :
    moment.before = session ∧ ∃ others, (moment.after patcher).moments patcher others = rest := by
  cases operations with
  | nil => cases h
  | cons operation others =>
    obtain ⟨rfl, hRest⟩ := List.cons.inj h
    exact ⟨rfl, others, hRest⟩

theorem held_of_undecided (h : session.moments patcher operations = past ++ moment :: future)
    (hNone : Undecided patcher (past ++ [moment])) :
    (moment.after patcher).facts.held = session.facts.held := by
  -- the session at the start moves with the first moment of the past
  induction past generalizing session operations with
  | nil =>
    obtain ⟨rfl, -⟩ := moments_eq_cons h
    exact held_step_of_not_decides (hNone _ (List.mem_singleton_self _))
  | cons first past ih =>
    obtain ⟨rfl, others, hRest⟩ := moments_eq_cons h
    rw [ih hRest fun other hOther => hNone other (List.mem_cons_of_mem _ hOther)]
    exact held_step_of_not_decides (hNone _ List.mem_cons_self)

theorem holds_of_lastDecision {decision : Option (List Text)}
    (h : session.moments patcher operations = past ++ moment :: future)
    (hLast : LastDecision patcher (past ++ [moment]) decision) :
    Holds (moment.after patcher).facts.held decision := by
  induction past generalizing session operations with
  | nil =>
    cases hLast with
    | here hDecides => exact holds_step hDecides
    | later hNone => cases hNone
  | cons first past ih =>
    obtain ⟨rfl, others, hRest⟩ := moments_eq_cons h
    cases hLast with
    | here hDecides hNone =>
      rw [held_of_undecided hRest hNone]
      exact holds_step hDecides
    | later hLast => exact ih hRest hLast

theorem count_log_history (patcher : Patcher) (history : List (Moment τ ν α)) :
    (history.flatMap fun moment => (moment.report patcher).log).count .catalogQuery =
      history.countP (·.operation.warms) +
        (history.flatMap fun moment => moment.before.coldGets moment.operation).length +
        history.countP fun moment => moment.before.patchesCold patcher moment.operation := by
  induction history with
  | nil => rfl
  | cons moment rest ih =>
    have hHere := catalogReads_eq patcher moment.before moment.operation
    rw [catalogReads] at hHere
    rw [List.flatMap_cons, List.count_append, List.flatMap_cons, List.length_append,
      List.countP_cons, List.countP_cons, ih, Moment.report, hHere]
    omega

/-- In every session from its start: what is held after an operation is what the last decision up to
it says, and nothing if there was none; requests for the columns answer with what is held, what they
read, or nothing; and the catalog is asked by warming, and else only if nothing is held. -/
theorem held_history (patcher : Patcher) (sketchType : Text) (life clock : τ)
    (connections : Keyed (Connection × Usage)) (operations : List (Operation τ ν α)) :
    let start : Session τ ν := fresh sketchType life clock connections
    let history := start.moments patcher operations
    start.run patcher operations =
        history.map (fun moment => (moment.after patcher, moment.report patcher)) ∧
      (∀ past moment future, history = past ++ moment :: future →
        (∀ decision, LastDecision patcher (past ++ [moment]) decision →
          Holds (moment.after patcher).facts.held decision) ∧
        (Undecided patcher (past ++ [moment]) → (moment.after patcher).facts.held = none)) ∧
      (∀ moment ∈ history,
        (∀ name, moment.operation = .columns name → ∃ columns,
          (moment.report patcher).answer = .columns columns ∧ moment.before.Gets name columns) ∧
        (∀ first second, moment.operation = .columnsTwice first second → ∃ earlier later,
          (moment.report patcher).answer = .columnsTwice earlier later ∧
            moment.before.Gets first earlier ∧
            (moment.before.step patcher (.columns first : Operation τ ν α)).1.Gets second later) ∧
        moment.catalogReads patcher =
          (if moment.operation.warms then 1 else 0) +
            (moment.before.coldGets moment.operation).length +
            (if moment.before.patchesCold patcher moment.operation then 1 else 0) ∧
        (moment.catalogReads patcher = 0 → ∀ name,
          (moment.after patcher).usage? name = moment.before.usage? name)) ∧
      (history.flatMap fun moment => (moment.report patcher).log).count .catalogQuery =
        history.countP (·.operation.warms) +
          (history.flatMap fun moment => moment.before.coldGets moment.operation).length +
          history.countP (fun moment => moment.before.patchesCold patcher moment.operation) := by
  intro start history
  refine ⟨run_eq_map_moments patcher start operations, ?_, ?_, count_log_history patcher history⟩
  · intro past moment future h
    exact ⟨fun decision => holds_of_lastDecision h, held_of_undecided h⟩
  · rintro ⟨before, operation⟩ -
    refine ⟨?_, ?_, catalogReads_eq patcher before operation, ?_⟩
    · rintro name rfl
      exact ⟨_, rfl, before.gets_columns name⟩
    · rintro first second rfl
      exact ⟨_, _, rfl, before.gets_columns first, gets_columns _ second⟩
    · exact fun h name => usage?_step_of_catalogReads_eq_zero h name

end Session

end QueryPatch
