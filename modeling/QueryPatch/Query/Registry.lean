import QueryPatch.Keyed

/-! # Registries

Which line declares a name. A later declaration takes the place of an earlier one.
-/
set_option autoImplicit false

namespace QueryPatch

abbrev Registry := Keyed Nat

namespace Registry

/-- Declarations in order, each a name and a line. -/
def ofDeclarations (declarations : List (Text × Nat)) : Registry :=
  declarations.foldl (fun registry (name, line) => Keyed.put registry name line) []

theorem get?_ofDeclarations_concat (declarations : List (Text × Nat)) (name other : Text)
    (line : Nat) : Keyed.get? (ofDeclarations (declarations ++ [(name, line)])) other =
      if other = name then some line else Keyed.get? (ofDeclarations declarations) other := by
  simp [ofDeclarations, List.foldl_append, Keyed.get?_put]

end Registry
end QueryPatch
