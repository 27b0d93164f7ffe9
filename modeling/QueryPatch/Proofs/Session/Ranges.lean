import QueryPatch.Proofs.Session.Separation
import QueryPatch.Proofs.Session.Watch
import Mathlib.Data.Int.Order.Basic

/-! # The ranges of a session

A session drops its ranges when it next looks at them. As long as its clock is not set back, it
answers as if they were dropped at the instant their window closes.
-/
set_option autoImplicit false

namespace QueryPatch.Session

variable {τ ν α : Type} [LinearOrder τ] [Add τ]

/-- The session shows the ranges that are in the store, at the same time. -/
structure Follows (session : Session τ ν) (watch : Watch τ ν) : Prop where
  clock_eq : session.clock = watch.clock
  shows : EagerRanges.Shows session.facts.life
    (Window.current session.clock session.facts.window) watch.store

namespace Follows

variable {session other : Session τ ν} {watch : Watch τ ν} {operation : Operation τ ν α}

theorem of_sameTables (h : session.Follows watch) (hSame : other.SameTables session) :
    other.Follows watch where
  clock_eq := hSame.clock_eq.trans h.clock_eq
  shows := by
    rw [hSame.life_eq, hSame.clock_eq, hSame.window_eq]
    exact h.shows

/-- What one operation preserves. -/
theorem step (patcher : Patcher) (h : session.Follows watch)
    (hClock : watch.clock ≤ (watch.step session.facts.life operation).clock) :
    (session.step patcher operation).1.Follows (watch.step session.facts.life operation) ∧
      (session.step patcher operation).1.facts.life = session.facts.life := by
  by_cases hHalf : operation.half? = some .columns
  · have hSame := sameTables_step_columns patcher session hHalf
    have hWatch : watch.step session.facts.life operation = watch := by
      cases operation <;> first | rfl | cases hHalf
    rw [hWatch]
    exact ⟨h.of_sameTables hSame, hSame.life_eq⟩
  obtain ⟨clock, store⟩ := watch
  obtain ⟨rfl, hShows⟩ := h
  cases operation with
  | putRange key low high => exact ⟨⟨rfl, hShows.put key (low, high)⟩, rfl⟩
  | getRange key =>
    refine ⟨⟨rfl, ?_⟩, rfl⟩
    change EagerRanges.Shows _ (Window.current session.clock (Window.current session.clock _)) store
    rw [Window.current_current le_rfl]
    exact hShows
  | forgetTables => exact ⟨⟨rfl, .closed⟩, rfl⟩
  | setClock now =>
    have hNow : session.clock ≤ now := hClock
    refine ⟨⟨rfl, ?_⟩, rfl⟩
    change EagerRanges.Shows _ (Window.current now session.facts.window) _
    rw [← Window.current_current hNow]
    exact hShows.reach now
  | setSize table count => cases count <;> exact ⟨⟨rfl, hShows⟩, rfl⟩
  | isSmall => exact ⟨⟨rfl, hShows⟩, rfl⟩
  | changeConnection name change =>
    rw [Session.step]
    split <;> exact ⟨⟨rfl, hShows⟩, rfl⟩
  | columns | columnsTwice | warm | seed | forgetColumns | patch | validate =>
    exact absurd rfl hHalf

/-- What a whole run preserves. -/
theorem moments {patcher : Patcher} {operations : List (Operation τ ν α)}
    {past future : List (Moment τ ν α)} {moment : Moment τ ν α} (h : session.Follows watch)
    (hClock : NeverBack watch.clock (past.map (·.operation)))
    (hMoments : session.moments patcher operations = past ++ moment :: future) :
    moment.before.Follows (watch.after session.facts.life (past.map (·.operation))) := by
  -- the session at the start moves with the first moment of the past
  induction past generalizing session operations watch with
  | nil =>
    obtain ⟨rfl, -⟩ := moments_eq_cons hMoments
    exact h
  | cons first past ih =>
    obtain ⟨rfl, others, hRest⟩ := moments_eq_cons hMoments
    obtain ⟨hStep, hPast⟩ := (Watch.neverBack_cons_iff first.before.facts.life).mp hClock
    obtain ⟨hFollows, hLife⟩ := h.step patcher hStep
    have hLater := ih hFollows hPast hRest
    rw [hLife] at hLater
    exact hLater

end Follows

theorem map_operation_moments (patcher : Patcher) (session : Session τ ν)
    (operations : List (Operation τ ν α)) :
    (session.moments patcher operations).map (·.operation) = operations := by
  induction operations generalizing session with
  | nil => rfl
  | cons operation rest ih => rw [moments, List.map_cons, ih]

section answers

variable {patcher : Patcher} {sketchType : Text} {life clock : τ}
  {connections : Keyed (Connection × Usage)} {operations : List (Operation τ ν α)}
  {past future : List (Moment τ ν α)} {moment : Moment τ ν α} {key : Text}

theorem neverBack_past (hClock : NeverBack clock operations)
    (hMoments : (fresh sketchType life clock connections : Session τ ν).moments patcher operations =
      past ++ moment :: future) : NeverBack clock (past.map (·.operation)) := by
  have hAll := congrArg (List.map (·.operation)) hMoments
  rw [map_operation_moments, List.map_append] at hAll
  rw [hAll] at hClock
  change NeverBack (⟨clock, none⟩ : Watch τ ν).clock _ at hClock
  exact ((Watch.neverBack_append_iff life).mp hClock).1

theorem answer_getRange (hClock : NeverBack clock operations)
    (hMoments : (fresh sketchType life clock connections : Session τ ν).moments patcher operations =
      past ++ moment :: future) (hOperation : moment.operation = .getRange key) :
    (moment.report patcher).answer = .range (EagerRanges.get?
      ((⟨clock, none⟩ : Watch τ ν).after life (past.map (·.operation))).store key) := by
  have hFresh : (fresh sketchType life clock connections : Session τ ν).Follows ⟨clock, none⟩ :=
    ⟨rfl, .closed⟩
  have hFollows := hFresh.moments (neverBack_past hClock hMoments) hMoments
  rw [Moment.report, hOperation]
  exact congrArg Answer.range (hFollows.shows.get?_eq key)

end answers

/-- In every session from its start whose clock is never set back, a request for a range answers
what is in a store that is emptied at the instant its window closes: the range that was put last
under the key and not forgotten since, if the time is not up of the window that it went into.
Whatever had no answer has none until it is put again, and a window that is open does not stay open
longer for what is put into it. -/
theorem range_answers (patcher : Patcher) (sketchType : Text) (life clock : τ)
    (connections : Keyed (Connection × Usage)) (operations : List (Operation τ ν α))
    (hClock : NeverBack clock operations) :
    let session : Session τ ν := fresh sketchType life clock connections
    let history := session.moments patcher operations
    let start : Watch τ ν := { clock }
    session.run patcher operations =
        history.map (fun moment => (moment.after patcher, moment.report patcher)) ∧
      ∀ past moment future, history = past ++ moment :: future →
        let watch := start.after life (past.map (·.operation))
        (∀ key, moment.operation = .getRange key →
          (moment.report patcher).answer = .range (EagerRanges.get? watch.store key) ∧
          (∀ range, EagerRanges.get? watch.store key = some range ↔
            ∃ before since later, past.map (·.operation) =
                before ++ since ++ .putRange key range.1 range.2 :: later ∧
              Written life start before since later key range) ∧
          ∀ before asked between, past = before ++ asked :: between →
            asked.operation = .getRange key → (asked.report patcher).answer = .range none →
            (∀ other ∈ between, ∀ low high, other.operation ≠ .putRange key low high) →
            (moment.report patcher).answer = .range none) ∧
        ∀ ranges next, watch.store = some ranges →
          (watch.step life moment.operation).store = some next → next.opened = ranges.opened := by
  intro session history start
  refine ⟨run_eq_map_moments patcher session operations, fun past moment future hMoments => ?_⟩
  have hPast := neverBack_past hClock hMoments
  refine ⟨fun key hOperation => ⟨answer_getRange hClock hMoments hOperation, fun range =>
    Watch.get?_after_eq_some_iff rfl hPast, ?_⟩, fun ranges next => Watch.opened_step_eq⟩
  rintro before asked between rfl hAsked hNone hOther
  have hMoments' : history = before ++ asked :: (between ++ moment :: future) := by
    rw [hMoments, List.append_assoc]
    rfl
  have hBefore := answer_getRange hClock hMoments' hAsked
  rw [hNone, Answer.range.injEq] at hBefore
  rw [answer_getRange hClock hMoments hOperation, List.map_append, List.map_cons, hAsked,
    Watch.after_append, Watch.get?_after_eq_none hBefore.symm]
  intro operation hMem
  rcases List.mem_cons.mp hMem with rfl | hMem
  · nofun
  · obtain ⟨other, hBetween, rfl⟩ := List.mem_map.mp hMem
    exact hOther other hBetween

/-- Two ranges that are put one after the other. Both are asked for when the time of the first is
up. -/
def windowOperations : List (Operation Int Nat Unit) :=
  [.putRange "d" 1 365, .setClock 108, .putRange "m" 1 12, .getRange "m", .setClock 110,
    .getRange "m", .getRange "d"]

theorem range_answers_twoRanges :
    NeverBack 100 windowOperations ∧
      let answers := ((fresh "hll" 10 100 [] : Session Int Nat).moments {} windowOperations).map
        fun moment => (moment.report {}).answer
      answers[3]? = some (.range (some (1, 12))) ∧ answers[5]? = some (.range none) ∧
        answers[6]? = some (.range none) := by
  have hClock : NeverBack 100 windowOperations := by
    unfold NeverBack
    decide
  obtain ⟨-, hAnswers⟩ := range_answers {} "hll" 10 100 [] windowOperations hClock
  refine ⟨hClock, congrArg some ?_, congrArg some ?_, congrArg some ?_⟩
  · exact ((hAnswers [_, _, _] _ _ rfl).1 "m" rfl).1
  · exact ((hAnswers [_, _, _, _, _] _ _ rfl).1 "m" rfl).1
  · exact ((hAnswers [_, _, _, _, _, _] _ _ rfl).1 "d" rfl).1

end QueryPatch.Session
