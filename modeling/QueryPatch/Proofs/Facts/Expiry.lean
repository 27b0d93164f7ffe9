import QueryPatch.Facts.Tables
import Mathlib.Logic.Function.Basic
import Mathlib.Order.Lattice

/-! # Ranges dropped at once

A store of ranges that keeps time itself. It is emptied at the instant its window closes, where a
window of ranges is dropped when it is next looked at; what the two show is the same.
-/
set_option autoImplicit false

namespace QueryPatch

variable {τ ν : Type}

/-- What was put into a window since it was opened. -/
structure OpenRanges (τ ν : Type) where
  opened : τ
  range? : Text → Option (ν × ν)

namespace OpenRanges

def insert (ranges : OpenRanges τ ν) (key : Text) (range : ν × ν) : OpenRanges τ ν :=
  { ranges with range? := Function.update ranges.range? key (some range) }

@[simp] theorem opened_insert (ranges : OpenRanges τ ν) (key : Text) (range : ν × ν) :
    (ranges.insert key range).opened = ranges.opened := rfl

theorem range?_insert (ranges : OpenRanges τ ν) (key other : Text) (range : ν × ν) :
    (ranges.insert key range).range? other =
      if other = key then some range else ranges.range? other :=
  Function.update_apply ..

end OpenRanges

/-- With no window open there is nothing in the store. -/
abbrev EagerRanges (τ ν : Type) := Option (OpenRanges τ ν)

namespace EagerRanges

/-- No clock is looked at. -/
def get? (store : EagerRanges τ ν) (key : Text) : Option (ν × ν) := do (← store).range? key

/-- The window that a range goes into: the open one, or else one that opens now. -/
def target (now : τ) (store : EagerRanges τ ν) : OpenRanges τ ν :=
  store.getD ⟨now, fun _ => none⟩

/-- The store holds what the window shows. -/
inductive Shows [Add τ] (life : τ) : Option (Window τ ν) → EagerRanges τ ν → Prop
  | closed : Shows life none none
  | opened {window : Window τ ν} {ranges : OpenRanges τ ν} :
      window.closes = ranges.opened + life →
      (∀ key, Keyed.get? window.ranges key = ranges.range? key) →
      Shows life (some window) (some ranges)

theorem Shows.insert [Add τ] {life : τ} {window : Window τ ν} {ranges : OpenRanges τ ν}
    (h : Shows life (some window) (some ranges)) (key : Text) (range : ν × ν) :
    Shows life (some { window with ranges := Keyed.put window.ranges key range })
      (some (ranges.insert key range)) := by
  cases h with
  | opened hCloses hRanges =>
    refine .opened hCloses fun other => ?_
    rw [Keyed.get?_put, OpenRanges.range?_insert, hRanges]

end EagerRanges

variable [LinearOrder τ]

theorem Window.current_current {now later : τ} (h : now ≤ later) (window : Option (Window τ ν)) :
    current later (current now window) = current later window := by
  rw [current, current, current, Option.filter_filter]
  congr 1
  funext opened
  by_cases hClosed : opened.closes ≤ now
  · have hLater : opened.closes ≤ later := le_trans hClosed h
    simp [hClosed, hLater]
  · simp [hClosed]

variable [Add τ]

namespace EagerRanges

variable {life now : τ} {window : Option (Window τ ν)} {store : EagerRanges τ ν}

/-- The clock reaches `now`: the store is emptied if the time of its window is up. -/
def reach (life now : τ) (store : EagerRanges τ ν) : EagerRanges τ ν :=
  store.filter fun ranges => now < ranges.opened + life

/-- The time of a window that opens now may be up at once. -/
def put (life now : τ) (store : EagerRanges τ ν) (key : Text) (range : ν × ν) : EagerRanges τ ν :=
  reach life now (some ((target now store).insert key range))

theorem reach_eq_some_iff {ranges : OpenRanges τ ν} :
    reach life now store = some ranges ↔ store = some ranges ∧ now < ranges.opened + life := by
  rw [reach, Option.filter_eq_some_iff, decide_eq_true_iff]

theorem put_eq_some_iff {key : Text} {range : ν × ν} {next : OpenRanges τ ν} :
    put life now store key range = some next ↔
      now < (target now store).opened + life ∧ next = (target now store).insert key range := by
  rw [put, reach_eq_some_iff, Option.some_inj]
  constructor
  · rintro ⟨rfl, hLives⟩
    exact ⟨hLives, rfl⟩
  · rintro ⟨hLives, rfl⟩
    exact ⟨rfl, hLives⟩

namespace Shows

theorem reach (h : Shows life window store) (now : τ) :
    Shows life (Window.current now window) (EagerRanges.reach life now store) := by
  cases h with
  | closed => exact .closed
  | @opened window ranges hCloses hRanges =>
    rw [Window.current, EagerRanges.reach, Option.filter_some, Option.filter_some, hCloses]
    by_cases hOpen : now < ranges.opened + life
    · rw [if_pos (by simpa using hOpen), if_pos (by simpa using hOpen)]
      exact .opened hCloses hRanges
    · rw [if_neg (by simpa using hOpen), if_neg (by simpa using hOpen)]
      exact .closed

theorem get?_eq (h : Shows life (Window.current now window) store) (key : Text) :
    Window.get? now window key = EagerRanges.get? store key := by
  rw [Window.get?, EagerRanges.get?]
  generalize Window.current now window = shown at h
  cases h with
  | closed => rfl
  | opened _ hRanges => exact hRanges key

theorem put (h : Shows life (Window.current now window) store) (key : Text) (range : ν × ν) :
    Shows life (Window.current now (some (Window.put life now window key range)))
      (EagerRanges.put life now store key range) := by
  rw [Window.put]
  generalize Window.current now window = shown at h
  cases h with
  | closed =>
    have hNew : Shows life (some ⟨now + life, []⟩) (some (⟨now, fun _ => none⟩ : OpenRanges τ ν)) :=
      .opened rfl fun _ => rfl
    exact (hNew.insert key range).reach now
  | opened hCloses hRanges => exact ((Shows.opened hCloses hRanges).insert key range).reach now

end Shows

end EagerRanges

end QueryPatch
