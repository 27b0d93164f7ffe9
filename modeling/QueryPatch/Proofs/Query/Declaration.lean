import QueryPatch.Query.Basic
import Mathlib.Data.List.Induction

/-! # The last declaration

A registry built from the readings of a query knows for each name the last line that declares it.
-/
set_option autoImplicit false

namespace QueryPatch

/-- The reading of the last line that declares the name. -/
structure LastDeclaration (names : Reading → List Text) (readings : List Reading) (name : Text)
    (line : Nat) (reading : Reading) : Prop where
  here : readings[line]? = some reading
  declares : name ∈ names reading
  none_later : ∀ later other, line < later → readings[later]? = some other → name ∉ names other

theorem LastDeclaration.unique {names : Reading → List Text} {readings : List Reading} {name : Text}
    {line line' : Nat} {reading reading' : Reading}
    (h : LastDeclaration names readings name line reading)
    (h' : LastDeclaration names readings name line' reading') :
    line = line' ∧ reading = reading' := by
  rcases Nat.lt_trichotomy line line' with hLess | rfl | hGreater
  · exact absurd h'.declares (h.none_later line' reading' hLess h'.here)
  · exact ⟨rfl, Option.some.inj (h.here.symm.trans h'.here)⟩
  · exact absurd h.declares (h'.none_later line reading hGreater h.here)

theorem getElem?_concat_eq_some_iff {α : Type} {values : List α} {last value : α} {position : Nat} :
    (values ++ [last])[position]? = some value ↔
      values[position]? = some value ∨ position = values.length ∧ value = last := by
  rcases Nat.lt_trichotomy position values.length with hLess | rfl | hGreater
  · rw [List.getElem?_append_left hLess]
    exact ⟨.inl, fun h => h.resolve_right fun hSame => absurd hSame.1 (Nat.ne_of_lt hLess)⟩
  · simp [eq_comm]
  · rw [List.getElem?_eq_none (by simp; omega), List.getElem?_eq_none (by omega)]
    simp [Nat.ne_of_gt hGreater]

theorem lastDeclaration_concat_iff {names : Reading → List Text} {readings : List Reading}
    {name : Text} {line : Nat} {reading last : Reading} :
    LastDeclaration names (readings ++ [last]) name line reading ↔
      name ∈ names last ∧ line = readings.length ∧ reading = last ∨
        name ∉ names last ∧ LastDeclaration names readings name line reading := by
  constructor
  · rintro ⟨hHere, hDeclares, hLater⟩
    rcases getElem?_concat_eq_some_iff.mp hHere with hHere | ⟨rfl, rfl⟩
    · refine .inr ⟨?_, hHere, hDeclares, fun later other hLess hOther => ?_⟩
      · exact hLater readings.length last (List.getElem?_eq_some_iff.mp hHere).1
          List.getElem?_concat_length
      · exact hLater later other hLess (getElem?_concat_eq_some_iff.mpr (.inl hOther))
    · exact .inl ⟨hDeclares, rfl, rfl⟩
  · rintro (⟨hDeclares, rfl, rfl⟩ | ⟨hLast, hHere, hDeclares, hLater⟩)
    · refine ⟨List.getElem?_concat_length, hDeclares, fun later other hLess hOther => ?_⟩
      rcases getElem?_concat_eq_some_iff.mp hOther with hOther | ⟨rfl, -⟩
      · exact absurd (List.getElem?_eq_some_iff.mp hOther).1 (Nat.not_lt_of_gt hLess)
      · exact absurd hLess (Nat.lt_irrefl _)
    · refine ⟨getElem?_concat_eq_some_iff.mpr (.inl hHere), hDeclares, ?_⟩
      intro later other hLess hOther
      rcases getElem?_concat_eq_some_iff.mp hOther with hOther | ⟨-, rfl⟩
      · exact hLater later other hLess hOther
      · exact hLast

theorem Registry.get?_ofDeclarations_append (declarations : List (Text × Nat)) (names : List Text)
    (line : Nat) (name : Text) :
    Keyed.get? (ofDeclarations (declarations ++ names.map (·, line))) name =
      if name ∈ names then some line else Keyed.get? (ofDeclarations declarations) name := by
  induction names using List.reverseRecOn with
  | nil => simp
  | append_singleton names last ih =>
    rw [List.map_append, List.map_singleton, ← List.append_assoc, get?_ofDeclarations_concat, ih]
    by_cases hLast : name = last
    · simp [hLast]
    · simp [hLast]

theorem Query.declarations_concat (names : Reading → List Text) (readings : List Reading)
    (reading : Reading) :
    declarations names (readings ++ [reading]) =
      declarations names readings ++ (names reading).map (·, readings.length) := by
  simp [declarations, List.zipIdx_append]

theorem Query.get?_declarations_eq_some_iff {names : Reading → List Text} {readings : List Reading}
    {name : Text} {line : Nat} :
    Keyed.get? (Registry.ofDeclarations (declarations names readings)) name = some line ↔
      ∃ reading, LastDeclaration names readings name line reading := by
  induction readings using List.reverseRecOn with
  | nil =>
    constructor
    · intro h
      cases h
    · rintro ⟨reading, hHere, -, -⟩
      cases hHere
  | append_singleton readings last ih =>
    rw [declarations_concat, Registry.get?_ofDeclarations_append]
    simp only [lastDeclaration_concat_iff]
    by_cases hLast : name ∈ names last
    · simp [hLast, eq_comm]
    · simp [hLast, ih]

end QueryPatch
