import QueryPatch.Text.Basic

/-! # Values by name

A finite map from names to values, newest entry first, each name once.
-/
set_option autoImplicit false

namespace QueryPatch

abbrev Keyed (α : Type) := List (Text × α)

namespace Keyed

variable {α : Type}

def get? (entries : Keyed α) (name : Text) : Option α := entries.lookup name

def put (entries : Keyed α) (name : Text) (value : α) : Keyed α :=
  (name, value) :: entries.filter (·.1 != name)

theorem get?_put (entries : Keyed α) (name other : Text) (value : α) :
    get? (put entries name value) other =
      if other = name then some value else get? entries other := by
  by_cases h : other = name
  · simp [put, get?, h]
  · have hb : (other == name) = false := by simpa using h
    simp only [put, get?, List.lookup_cons, hb, h, if_false]
    induction entries with
    | nil => rfl
    | cons entry rest ih =>
      by_cases he : entry.1 = name
      · have ho : (other == entry.1) = false := by simpa [he] using h
        rw [List.filter_cons_of_neg (by simp [he]), ih, List.lookup_cons, ho]
      · rw [List.filter_cons_of_pos (by simpa using he), List.lookup_cons, List.lookup_cons, ih]

end Keyed
end QueryPatch
