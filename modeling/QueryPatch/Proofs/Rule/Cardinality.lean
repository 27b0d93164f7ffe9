import QueryPatch.Rule.Cardinality
import QueryPatch.Proofs.Query.Declaration

/-! # What the cardinality rule does

On a query that has no replacements yet, the rule gives each aggregation over a sketch column its
replacement, leaves everything else alone, and does not fail.
-/
set_option autoImplicit false

namespace QueryPatch

namespace Query

/-- The line that takes the place of the fragment, if any does. -/
def cardinality? (query : Query) (columns : ColumnSet) (fragment : Fragment) : Option Text :=
  if sums fragment && query.overSketch columns fragment then some fragment.attributes.cardinality
  else none

def replaced (query : Query) (line? : Fragment → Option Text) : Query :=
  { query with
    fragments := query.fragments.map fun fragment =>
      { fragment with replacement := line? fragment } }

theorem replaced_eq_self {query : Query} {line? : Fragment → Option Text}
    (hFresh : ∀ fragment ∈ query.fragments, fragment.replacement = none)
    (hNone : ∀ fragment ∈ query.fragments, line? fragment = none) :
    query.replaced line? = query := by
  have hMap :
      query.fragments.map (fun fragment => { fragment with replacement := line? fragment }) =
        query.fragments.map id := by
    apply List.map_congr_left
    intro fragment hFragment
    rw [hNone fragment hFragment, ← hFresh fragment hFragment]
    rfl
  rw [replaced, hMap, List.map_id]

theorem cardinalityEdits_eq (query : Query) (columns : ColumnSet) :
    query.cardinalityEdits columns =
      query.fragments.zipIdx.filterMap fun (fragment, line) =>
        (query.cardinality? columns fragment).map fun text => ⟨line, text⟩ := by
  rw [cardinalityEdits]
  congr
  funext ⟨fragment, line⟩
  simp only [cardinality?]
  split <;> rfl

theorem position?_of_lt {query : Query} {line : Nat} (h : line < query.fragments.length) :
    query.position? line = some line := by
  have hSign : ¬ (line : Int) < 0 := by omega
  have hBound : (line : Int) < query.fragments.length := by omega
  simp only [position?, if_neg hSign]
  rw [if_pos ⟨Int.not_lt.mp hSign, hBound⟩, Int.toNat_natCast]

theorem edit_at_length (query : Query) (before after : List Fragment) (fragment : Fragment)
    (line : Text) (hFresh : fragment.replacement = none) :
    { query with fragments := before ++ fragment :: after }.edit ⟨before.length, line⟩ =
      .ok { query with
        fragments := before ++ { fragment with replacement := some line } :: after } := by
  have hPosition :
      { query with fragments := before ++ fragment :: after }.position? before.length =
        some before.length := position?_of_lt (by simp)
  simp [edit, hPosition, replaceAt, Fragment.replace, hFresh, Except.map]

theorem editAll_append (query : Query) (line? : Fragment → Option Text)
    (before after : List Fragment) (hFresh : ∀ fragment ∈ after, fragment.replacement = none) :
    editAll { query with fragments := before ++ after }
        ((after.zipIdx before.length).filterMap fun (fragment, line) =>
          (line? fragment).map fun text => ⟨line, text⟩) =
      ({ query with
        fragments := before ++ after.map fun fragment =>
          { fragment with replacement := line? fragment } }, none) := by
  -- on the lines that are still to be edited; `before` holds those done
  induction after generalizing before with
  | nil => rfl
  | cons fragment after ih =>
    have hHere : fragment.replacement = none := hFresh fragment List.mem_cons_self
    have hRest : ∀ other ∈ after, other.replacement = none :=
      fun other hOther => hFresh other (List.mem_cons_of_mem _ hOther)
    rw [List.zipIdx_cons, List.filterMap_cons]
    cases hLine : line? fragment with
    | none =>
      have hSame : { fragment with replacement := none } = fragment := by rw [← hHere]
      have h := ih (before ++ [fragment]) hRest
      simp only [List.length_append, List.length_singleton, List.append_assoc,
        List.singleton_append] at h
      simp only [Option.map_none, List.map_cons, hLine, hSame]
      exact h
    | some text =>
      have h := ih (before ++ [{ fragment with replacement := some text }]) hRest
      simp only [List.length_append, List.length_singleton, List.append_assoc,
        List.singleton_append] at h
      simp only [Option.map_some, List.map_cons, hLine, editAll,
        edit_at_length query before after fragment text hHere]
      exact h

end Query

theorem Query.isEmpty_cardinalityEdits (query : Query) (columns : ColumnSet) :
    (query.cardinalityEdits columns).isEmpty =
      !(query.fragments.any fun fragment => (query.cardinality? columns fragment).isSome) := by
  rw [cardinalityEdits_eq]
  generalize query.cardinality? columns = line?
  generalize 0 = start
  induction query.fragments generalizing start with
  | nil => rfl
  | cons fragment rest ih =>
    rw [List.zipIdx_cons, List.filterMap_cons, List.any_cons]
    dsimp only
    cases line? fragment with
    | none => exact ih (start + 1)
    | some text => rfl

theorem Rule.edits_cardinality (query : Query) (columns : ColumnSet) :
    Rule.cardinality.edits query columns = query.cardinalityEdits columns := rfl

theorem Rule.ending_cardinality (query : Query) (columns : ColumnSet) :
    Rule.cardinality.ending query columns = .ok !(query.cardinalityEdits columns).isEmpty := rfl

theorem Rule.apply_cardinality (columns : ColumnSet) (query : Query)
    (hFresh : ∀ fragment ∈ query.fragments, fragment.replacement = none) :
    Rule.cardinality.apply columns query =
      (query.replaced (query.cardinality? columns),
        .ok (query.fragments.any fun fragment =>
          (query.cardinality? columns fragment).isSome)) := by
  have hEdits := query.editAll_append (query.cardinality? columns) [] query.fragments hFresh
  rw [List.nil_append, List.nil_append, List.length_nil, ← query.cardinalityEdits_eq] at hEdits
  unfold Rule.apply
  rw [edits_cardinality, hEdits]
  dsimp only
  rw [ending_cardinality, query.isEmpty_cardinalityEdits, Bool.not_not]
  rfl

end QueryPatch
