import QueryPatch.Keyed

/-! # Known tables

Two facts about tables: whether a table is small, and the range of values of a key. All ranges are
held in one window, which the first of them opens; they are dropped together once it has closed,
when the ranges are next looked at.
-/
set_option autoImplicit false

namespace QueryPatch

/-- A table with fewer rows is small. -/
def smallTableLimit : Int := 10000

/-- A number of rows as it was given: `mantissa / 10 ^ places`. -/
structure RowCount where
  mantissa : Int
  places : Nat := 0

def RowCount.isSmall (count : RowCount) : Bool :=
  count.mantissa < smallTableLimit * (Nat.pow 10 count.places : Nat)

/-- How many seconds a window of ranges stays open, unless told otherwise. -/
def windowLife : Nat := 10

/-- Ranges that expire together when the clock reaches `closes`. -/
structure Window (τ ν : Type) where
  closes : τ
  ranges : Keyed (ν × ν)

namespace Window

variable {τ ν : Type} [LE τ] [DecidableLE τ]

/-- The window, unless it has closed. -/
def current (now : τ) (window : Option (Window τ ν)) : Option (Window τ ν) :=
  window.filter fun opened => ¬ opened.closes ≤ now

def get? (now : τ) (window : Option (Window τ ν)) (key : Text) : Option (ν × ν) := do
  Keyed.get? (← current now window).ranges key

/-- A range goes into the open window; if there is none, it opens one that closes after `life`. -/
def put [Add τ] (life now : τ) (window : Option (Window τ ν)) (key : Text) (range : ν × ν) :
    Window τ ν :=
  match current now window with
  | some opened => { opened with ranges := Keyed.put opened.ranges key range }
  | none => { closes := now + life, ranges := Keyed.put [] key range }

end Window
end QueryPatch
