import QueryPatch.Proofs.Facts.Expiry
import QueryPatch.Session
import Mathlib.Data.List.Chain

/-! # Ranges by the clock

What a store of ranges holds that goes by the clock of a session: under each key the range that was
put last, unless it was forgotten since or the time is up of the window that it went into.
-/
set_option autoImplicit false

namespace QueryPatch

variable {τ ν α : Type}

def Operation.time? : Operation τ ν α → Option τ
  | .setClock now => some now
  | _ => none

/-- A clock, and a store of ranges that goes by it. -/
structure Watch (τ ν : Type) where
  clock : τ
  store : EagerRanges τ ν := none

variable [LinearOrder τ]

/-- From this time on the clock is never set back. -/
def NeverBack (clock : τ) (operations : List (Operation τ ν α)) : Prop :=
  (clock :: operations.filterMap Operation.time?).IsChain (· ≤ ·)

variable [Add τ]

namespace Watch

/-- To ask for a range changes nothing; to set the clock may empty the store. -/
def step (life : τ) (watch : Watch τ ν) : Operation τ ν α → Watch τ ν
  | .putRange key low high =>
    { watch with store := .put life watch.clock watch.store key (low, high) }
  | .forgetTables => { watch with store := none }
  | .setClock now => ⟨now, .reach life now watch.store⟩
  | _ => watch

def after (life : τ) (watch : Watch τ ν) (operations : List (Operation τ ν α)) : Watch τ ν :=
  operations.foldl (step life) watch

section clock

variable {watch : Watch τ ν} {operation : Operation τ ν α} {operations : List (Operation τ ν α)}

theorem after_append (life : τ) (watch : Watch τ ν) (earlier later : List (Operation τ ν α)) :
    watch.after life (earlier ++ later) = (watch.after life earlier).after life later :=
  List.foldl_append

theorem after_concat (life : τ) (watch : Watch τ ν) (operations : List (Operation τ ν α))
    (operation : Operation τ ν α) :
    watch.after life (operations ++ [operation]) =
      (watch.after life operations).step life operation :=
  after_append life watch operations [operation]

theorem neverBack_cons_iff (life : τ) :
    NeverBack watch.clock (operation :: operations) ↔
      watch.clock ≤ (watch.step life operation).clock ∧
        NeverBack (watch.step life operation).clock operations := by
  cases operation with
  | setClock now => exact List.isChain_cons_cons
  | _ => exact ⟨fun h => ⟨le_rfl, h⟩, And.right⟩

theorem neverBack_append_iff (life : τ) {earlier later : List (Operation τ ν α)} :
    NeverBack watch.clock (earlier ++ later) ↔
      NeverBack watch.clock earlier ∧ NeverBack (watch.after life earlier).clock later := by
  induction earlier generalizing watch with
  | nil => exact ⟨fun h => ⟨.singleton _, h⟩, And.right⟩
  | cons operation earlier ih =>
    rw [List.cons_append, neverBack_cons_iff life, neverBack_cons_iff life, ih, and_assoc]
    rfl

theorem clock_le_after (life : τ) (h : NeverBack watch.clock operations) :
    watch.clock ≤ (watch.after life operations).clock := by
  induction operations generalizing watch with
  | nil => exact le_rfl
  | cons operation rest ih =>
    obtain ⟨hStep, hRest⟩ := (neverBack_cons_iff life).mp h
    exact hStep.trans (ih hRest)

end clock

section step

variable {life : τ} {watch : Watch τ ν} {operation : Operation τ ν α}
  {operations : List (Operation τ ν α)} {ranges next : OpenRanges τ ν} {key : Text}

theorem store_step_put_eq_some_iff {low high : ν} :
    (watch.step life (.putRange key low high : Operation τ ν α)).store = some next ↔
      watch.clock < (EagerRanges.target watch.clock watch.store).opened + life ∧
        next = (EagerRanges.target watch.clock watch.store).insert key (low, high) :=
  EagerRanges.put_eq_some_iff

theorem store_step_put {low high : ν}
    (h : watch.clock < (EagerRanges.target watch.clock watch.store).opened + life) :
    (watch.step life (.putRange key low high : Operation τ ν α)).store =
      some ((EagerRanges.target watch.clock watch.store).insert key (low, high)) :=
  store_step_put_eq_some_iff.mpr ⟨h, rfl⟩

/-- What an operation does to an open window: it stays open unless it is forgotten or its time is
up, no put makes it stay open longer, and only a put under a key changes what is there. -/
theorem exists_step_of_open (hStore : watch.store = some ranges)
    (hKept : operation ≠ .forgetTables)
    (hLives : (watch.step life operation).clock < ranges.opened + life) :
    ∃ next, (watch.step life operation).store = some next ∧ next.opened = ranges.opened ∧
      ∀ key, (∀ low high, operation ≠ .putRange key low high) →
        next.range? key = ranges.range? key := by
  cases operation with
  | putRange key low high =>
    have hTarget : EagerRanges.target watch.clock watch.store = ranges := by
      rw [EagerRanges.target, hStore, Option.getD_some]
    rw [← hTarget] at hLives ⊢
    refine ⟨_, store_step_put hLives, rfl, fun other hOther => ?_⟩
    rw [OpenRanges.range?_insert, if_neg fun hSame => hOther low high (by rw [hSame])]
  | setClock now =>
    exact ⟨ranges, EagerRanges.reach_eq_some_iff.mpr ⟨hStore, hLives⟩, rfl, fun _ _ => rfl⟩
  | forgetTables => exact absurd rfl hKept
  | _ => exact ⟨ranges, hStore, rfl, fun _ _ => rfl⟩

theorem exists_after_of_open (hStore : watch.store = some ranges)
    (hClock : NeverBack watch.clock operations)
    (hKept : ∀ operation ∈ operations, operation ≠ .forgetTables)
    (hLives : (watch.after life operations).clock < ranges.opened + life) :
    ∃ next, (watch.after life operations).store = some next ∧ next.opened = ranges.opened ∧
      ∀ key, (∀ operation ∈ operations, ∀ low high, operation ≠ .putRange key low high) →
        next.range? key = ranges.range? key := by
  induction operations generalizing watch ranges with
  | nil => exact ⟨ranges, hStore, rfl, fun _ _ => rfl⟩
  | cons operation rest ih =>
    obtain ⟨-, hRest⟩ := (neverBack_cons_iff life).mp hClock
    obtain ⟨between, hBetween, hSame, hRanges⟩ := exists_step_of_open hStore
      (hKept operation List.mem_cons_self) ((clock_le_after life hRest).trans_lt hLives)
    obtain ⟨next, hNext, hOpened, hLater⟩ := ih hBetween hRest
      (fun other hOther => hKept other (List.mem_cons_of_mem _ hOther)) (hSame ▸ hLives)
    refine ⟨next, hNext, hOpened.trans hSame, fun key hKey => ?_⟩
    rw [hLater key fun other hOther => hKey other (List.mem_cons_of_mem _ hOther),
      hRanges key (hKey operation List.mem_cons_self)]

theorem opened_step_eq (hStore : watch.store = some ranges)
    (hNext : (watch.step life operation).store = some next) : next.opened = ranges.opened := by
  cases operation with
  | putRange key low high =>
    obtain ⟨-, rfl⟩ := store_step_put_eq_some_iff.mp hNext
    rw [OpenRanges.opened_insert, EagerRanges.target, hStore, Option.getD_some]
  | setClock now =>
    obtain ⟨hSame, -⟩ := EagerRanges.reach_eq_some_iff.mp hNext
    rw [Option.some.inj (hSame.symm.trans hStore)]
  | forgetTables => cases hNext
  | _ => rw [Option.some.inj (hNext.symm.trans hStore)]

/-- What is not there under a key does not come back by operations on anything else. -/
theorem get?_step_eq_none (hNone : EagerRanges.get? watch.store key = none)
    (hKey : ∀ low high, operation ≠ .putRange key low high) :
    EagerRanges.get? (watch.step life operation).store key = none := by
  rw [EagerRanges.get?, Option.bind_eq_bind, Option.bind_eq_none_iff] at hNone ⊢
  intro next hNext
  cases operation with
  | putRange other low high =>
    obtain ⟨-, rfl⟩ := store_step_put_eq_some_iff.mp hNext
    rw [OpenRanges.range?_insert, if_neg fun hSame => hKey low high (by rw [hSame])]
    cases hStore : watch.store with
    | none => rfl
    | some ranges => exact hNone ranges hStore
  | setClock now => exact hNone next (EagerRanges.reach_eq_some_iff.mp hNext).1
  | forgetTables => cases hNext
  | _ => exact hNone next hNext

theorem get?_after_eq_none (hNone : EagerRanges.get? watch.store key = none)
    (hKey : ∀ operation ∈ operations, ∀ low high, operation ≠ .putRange key low high) :
    EagerRanges.get? (watch.after life operations).store key = none := by
  induction operations generalizing watch with
  | nil => exact hNone
  | cons operation rest ih =>
    exact ih (get?_step_eq_none hNone (hKey operation List.mem_cons_self))
      fun other hOther => hKey other (List.mem_cons_of_mem _ hOther)

end step

end Watch

/-- The range was put last under its key, behind `before` and `since`, into a window that is still
open. It is the operation right behind `before` that found no window open, and opened it. -/
structure Written (life : τ) (start : Watch τ ν) (before since later : List (Operation τ ν α))
    (key : Text) (range : ν × ν) : Prop where
  closed : (start.after life before).store = none
  opens : ∃ first low high,
    (since ++ [Operation.putRange key range.1 range.2]).head? = some (.putRange first low high)
  kept : ∀ operation ∈ since ++ later, operation ≠ .forgetTables
  last : ∀ operation ∈ later, ∀ low high, operation ≠ .putRange key low high
  opened_le : (start.after life before).clock ≤ (start.after life (before ++ since)).clock
  lives : (start.after life (before ++ since ++ .putRange key range.1 range.2 :: later)).clock <
    (start.after life before).clock + life

namespace Watch

variable {life : τ} {start : Watch τ ν} {past before since later : List (Operation τ ν α)}
  {operation : Operation τ ν α} {ranges next : OpenRanges τ ν} {key : Text} {range : ν × ν}

/-- How the window came about that is open after `before` and `since`. -/
structure Opened (life : τ) (start : Watch τ ν) (before since : List (Operation τ ν α))
    (ranges : OpenRanges τ ν) : Prop where
  closed : (start.after life before).store = none
  opens : ∃ first low high, since.head? = some (.putRange first low high)
  kept : ∀ operation ∈ since, operation ≠ .forgetTables
  opened_eq : ranges.opened = (start.after life before).clock
  lives : (start.after life (before ++ since)).clock < ranges.opened + life
  wrote : ∀ key range, ranges.range? key = some range → ∃ between later,
    since = between ++ .putRange key range.1 range.2 :: later ∧
      ∀ operation ∈ later, ∀ low high, operation ≠ .putRange key low high

theorem Opened.concat (h : Opened life start before since ranges)
    (hKept : operation ≠ .forgetTables) (hOpened : next.opened = ranges.opened)
    (hLives : ((start.after life (before ++ since)).step life operation).clock <
      next.opened + life)
    (hWrote : ∀ key range, next.range? key = some range →
      operation = .putRange key range.1 range.2 ∨
        (∀ low high, operation ≠ .putRange key low high) ∧ ranges.range? key = some range) :
    Opened life start before (since ++ [operation]) next where
  closed := h.closed
  opens := by
    obtain ⟨first, low, high, hHead⟩ := h.opens
    exact ⟨first, low, high, by rw [List.head?_append, hHead, Option.some_or]⟩
  kept := by
    intro other hOther
    rcases List.mem_append.mp hOther with hEarlier | hHere
    · exact h.kept other hEarlier
    · exact List.mem_singleton.mp hHere ▸ hKept
  opened_eq := hOpened.trans h.opened_eq
  lives := by rwa [← List.append_assoc, after_concat]
  wrote := by
    intro key range hRange
    rcases hWrote key range hRange with rfl | ⟨hOther, hEarlier⟩
    · exact ⟨since, [], rfl, nofun⟩
    · obtain ⟨between, later, rfl, hLater⟩ := h.wrote key range hEarlier
      refine ⟨between, later ++ [operation], by simp, fun other hMem => ?_⟩
      rcases List.mem_append.mp hMem with hBefore | hHere
      · exact hLater other hBefore
      · exact List.mem_singleton.mp hHere ▸ hOther

theorem Opened.of_put {low high : ν} (hClosed : (start.after life past).store = none)
    (hLives : (start.after life past).clock < (start.after life past).clock + life) :
    Opened life start past [.putRange key low high]
      (OpenRanges.insert ⟨(start.after life past).clock, fun _ => none⟩ key (low, high)) where
  closed := hClosed
  opens := ⟨key, low, high, rfl⟩
  kept := by
    intro operation hMem
    rw [List.mem_singleton.mp hMem]
    nofun
  opened_eq := rfl
  lives := by
    rw [after_concat]
    exact hLives
  wrote := by
    intro other range hRange
    rw [OpenRanges.range?_insert] at hRange
    split at hRange
    · rename_i hSame
      obtain rfl := Option.some.inj hRange
      exact ⟨[], [], by rw [hSame]; rfl, nofun⟩
    · cases hRange

theorem Opened.put {low high : ν} (h : Opened life start before since ranges) :
    Opened life start before (since ++ [.putRange key low high])
      (ranges.insert key (low, high)) := by
  refine h.concat nofun rfl h.lives fun other range hRange => ?_
  rw [OpenRanges.range?_insert] at hRange
  split at hRange
  · rename_i hSame
    obtain rfl := Option.some.inj hRange
    exact .inl (by rw [hSame])
  · rename_i hOther
    refine .inr ⟨?_, hRange⟩
    rintro low' high' ⟨⟩
    exact hOther rfl

/-- Wherever a window is open, it was opened by a put that had found none open. -/
theorem exists_opened (hStart : start.store = none)
    (hStore : (start.after life past).store = some ranges) :
    ∃ before since, past = before ++ since ∧ Opened life start before since ranges := by
  induction past using List.reverseRecOn generalizing ranges with
  | nil => cases hStart.symm.trans hStore
  | append_singleton past operation ih =>
    rw [after_concat] at hStore
    cases operation with
    | putRange key low high =>
      obtain ⟨hLives, rfl⟩ := store_step_put_eq_some_iff.mp hStore
      cases hBefore : (start.after life past).store with
      | none =>
        rw [hBefore] at hLives
        exact ⟨past, _, rfl, .of_put hBefore hLives⟩
      | some window =>
        obtain ⟨before, since, rfl, hOpened⟩ := ih hBefore
        exact ⟨before, _, List.append_assoc .., hOpened.put⟩
    | setClock now =>
      obtain ⟨hSame, hLives⟩ := EagerRanges.reach_eq_some_iff.mp hStore
      obtain ⟨before, since, rfl, hOpened⟩ := ih hSame
      exact ⟨before, _, List.append_assoc .., hOpened.concat nofun rfl hLives
        fun key range hRange => .inr ⟨nofun, hRange⟩⟩
    | forgetTables => cases hStore
    | _ =>
      obtain ⟨before, since, rfl, hOpened⟩ := ih hStore
      exact ⟨before, _, List.append_assoc .., hOpened.concat nofun rfl hOpened.lives
        fun key range hRange => .inr ⟨nofun, hRange⟩⟩

/-- A window that a put has opened is the one that later ranges go into while its time lasts. -/
theorem opened_target (hClosed : start.store = none) {put : Operation τ ν α}
    (hOpens : ∃ first low high, (since ++ [put]).head? = some (.putRange first low high))
    (hClock : NeverBack start.clock since) (hKept : ∀ operation ∈ since, operation ≠ .forgetTables)
    (hLives : (start.after life since).clock < start.clock + life) :
    (EagerRanges.target (start.after life since).clock (start.after life since).store).opened =
      start.clock := by
  cases since with
  | nil =>
    change (EagerRanges.target start.clock start.store).opened = start.clock
    rw [hClosed]
    rfl
  | cons first rest =>
    obtain ⟨other, low, high, hFirst⟩ := hOpens
    obtain rfl : first = .putRange other low high := Option.some.inj hFirst
    have hTarget : (EagerRanges.target start.clock start.store).opened = start.clock := by
      rw [hClosed]
      rfl
    have hNow : start.clock < (EagerRanges.target start.clock start.store).opened + life := by
      rw [hTarget]
      exact (clock_le_after life hClock).trans_lt hLives
    obtain ⟨next, hNext, hOpened, -⟩ := exists_after_of_open (store_step_put hNow)
      ((neverBack_cons_iff life).mp hClock).2
      (fun operation hMem => hKept operation (List.mem_cons_of_mem _ hMem))
      (by rwa [OpenRanges.opened_insert, hTarget])
    rw [OpenRanges.opened_insert, hTarget] at hOpened
    change (EagerRanges.target _ ((start.step life _).after life rest).store).opened = _
    rw [hNext]
    exact hOpened

theorem get?_after_of_written (h : Written life start before since later key range)
    (hClock : NeverBack start.clock (before ++ since ++ .putRange key range.1 range.2 :: later)) :
    EagerRanges.get? (start.after life
      (before ++ since ++ .putRange key range.1 range.2 :: later)).store key = some range := by
  have hLives := h.lives
  rw [neverBack_append_iff life, neverBack_append_iff life] at hClock
  obtain ⟨⟨-, hSince⟩, hRest⟩ := hClock
  obtain ⟨-, hLater⟩ := (neverBack_cons_iff life).mp hRest
  rw [after_append] at hLives ⊢
  have hWritten := (clock_le_after life hRest).trans_lt hLives
  have hTarget := opened_target h.closed h.opens hSince
    (fun operation hMem => h.kept operation (List.mem_append_left _ hMem))
    (by rwa [← after_append])
  rw [← after_append] at hTarget
  rw [← hTarget] at hWritten hLives
  obtain ⟨next, hNext, -, hRanges⟩ := exists_after_of_open (store_step_put hWritten) hLater
    (fun operation hMem => h.kept operation (List.mem_append_right _ hMem)) hLives
  change EagerRanges.get?
    (((start.after life (before ++ since)).step life _).after life later).store key = some range
  rw [hNext]
  exact (hRanges key h.last).trans ((OpenRanges.range?_insert ..).trans (if_pos rfl))

/-- What the store holds under a key is the range that was put there last, if the time of its window
is not up and nothing has been forgotten. -/
theorem get?_after_eq_some_iff (hStart : start.store = none) (hClock : NeverBack start.clock past) :
    EagerRanges.get? (start.after life past).store key = some range ↔
      ∃ before since later, past = before ++ since ++ .putRange key range.1 range.2 :: later ∧
        Written life start before since later key range := by
  constructor
  · intro h
    obtain ⟨ranges, hStore, hRange⟩ := Option.bind_eq_some_iff.mp h
    obtain ⟨before, since, rfl, hOpened⟩ := exists_opened hStart hStore
    obtain ⟨between, later, rfl, hLast⟩ := hOpened.wrote key range hRange
    have hAppend := List.append_assoc before between (.putRange key range.1 range.2 :: later)
    refine ⟨before, between, later, hAppend.symm, hOpened.closed, ?_, ?_, hLast, ?_, ?_⟩
    · obtain ⟨first, low, high, hHead⟩ := hOpened.opens
      refine ⟨first, low, high, ?_⟩
      rw [List.head?_append] at hHead ⊢
      exact hHead
    · intro operation hMem
      apply hOpened.kept
      rcases List.mem_append.mp hMem with hBetween | hLater
      · exact List.mem_append_left _ hBetween
      · exact List.mem_append_right _ (List.mem_cons_of_mem _ hLater)
    · rw [← List.append_assoc, neverBack_append_iff life, neverBack_append_iff life] at hClock
      rw [after_append]
      exact clock_le_after life hClock.1.2
    · rw [hAppend, ← hOpened.opened_eq]
      exact hOpened.lives
  · rintro ⟨before, since, later, rfl, hWritten⟩
    exact get?_after_of_written hWritten hClock

end Watch
end QueryPatch
