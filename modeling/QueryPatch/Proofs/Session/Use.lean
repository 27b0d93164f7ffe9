import QueryPatch.Session

/-! # What using a connection changes

Counting what was done on a named connection changes that count and nothing else.
-/
set_option autoImplicit false

namespace QueryPatch

theorem Usage.append_empty (usage : Usage) : usage ++ ({} : Usage) = usage := by
  change Usage.mk (usage.queries ++ []) (usage.cursorsClosed + 0) (usage.rollbacks + 0) = usage
  rw [List.append_nil]
  rfl

namespace Session

variable {τ ν : Type}

theorem facts_use (session : Session τ ν) (name : Option Text) (usage : Usage) :
    (session.use name usage).facts = session.facts := by
  unfold use
  split
  · rfl
  · split <;> rfl

theorem get?_use (session : Session τ ν) (name : Option Text) (usage : Usage) (other : Text) :
    Keyed.get? (session.use name usage).connections other =
      (Keyed.get? session.connections other).map fun (connection, used) =>
        (connection, if name = some other then used ++ usage else used) := by
  cases name with
  | none => simp [use]
  | some name =>
    cases hConnection : Keyed.get? session.connections name with
    | none =>
      simp only [use, hConnection]
      by_cases h : name = other
      · subst h
        simp [hConnection]
      · simp [h]
    | some entry =>
      obtain ⟨connection, used⟩ := entry
      simp only [use, hConnection, Keyed.get?_put]
      by_cases h : other = name
      · subst h
        simp [hConnection]
      · simp [h, Ne.symm h]

/-- No use at all leaves every connection as it was. -/
theorem get?_use_empty (session : Session τ ν) (name : Option Text) (other : Text) :
    Keyed.get? (session.use name {}).connections other =
      Keyed.get? session.connections other := by
  rw [get?_use]
  cases Keyed.get? session.connections other with
  | none => rfl
  | some entry => simp [Usage.append_empty]

end Session
end QueryPatch
