import QueryPatch.Proofs.Patch.Linewise
import QueryPatch.Proofs.Rule.Assignment

/-! # The cardinality rule repeated

The rule looks at the lines as they were read and not at their replacements. So it asks a second
time for what it has replaced already, and fails at the first such line without a change.
-/
set_option autoImplicit false

namespace QueryPatch

open Text

namespace Query

variable {query : Query} {columns : ColumnSet}

theorem edit_of_replaced {line : Nat} {fragment : Fragment} {old : Text}
    (hFragment : query.fragments[line]? = some fragment)
    (hReplaced : fragment.replacement = some old) (new : Text) :
    query.edit ⟨line, new⟩ = .error (.alreadyReplaced fragment.text) := by
  have hPosition := position?_of_lt (List.getElem?_eq_some_iff.mp hFragment).1
  simp [edit, hPosition, replaceAt, hFragment, Fragment.replace, hReplaced, Except.map]

theorem declaring?_replaced (query : Query) (line? : Fragment → Option Text)
    (tableAlias : Option Text) :
    (query.replaced line?).declaring? tableAlias =
      (query.declaring? tableAlias).map fun fragment =>
        { fragment with replacement := line? fragment } := by
  cases tableAlias with
  | none => rfl
  | some name =>
    simp only [declaring?, replaced, Option.bind_eq_bind, Option.bind_some, List.getElem?_map]
    cases Keyed.get? query.aliases name <;> rfl

theorem cardinality?_replaced (query : Query) (line? : Fragment → Option Text)
    (columns : ColumnSet) (fragment : Fragment) (line : Option Text) :
    (query.replaced line?).cardinality? columns { fragment with replacement := line } =
      query.cardinality? columns fragment := by
  have hSketch : (query.replaced line?).overSketch columns { fragment with replacement := line } =
      query.overSketch columns fragment := by
    rw [overSketch, overSketch, declaring?_replaced]
    cases query.declaring? fragment.attributes.tableAlias <;> rfl
  rw [cardinality?, cardinality?, hSketch]
  rfl

theorem cardinalityEdits_replaced (query : Query) (line? : Fragment → Option Text)
    (columns : ColumnSet) :
    (query.replaced line?).cardinalityEdits columns = query.cardinalityEdits columns := by
  rw [cardinalityEdits_eq, cardinalityEdits_eq, replaced, List.zipIdx_map, List.filterMap_map]
  congr 1
  funext position
  exact congrArg (Option.map _) (query.cardinality?_replaced line? columns position.1 _)

/-- The rule asks for the first line that it replaces before it asks for any other. -/
theorem cardinalityEdits_eq_cons {before after : List Fragment} {fragment : Fragment} {text : Text}
    (hFragments : query.fragments = before ++ fragment :: after)
    (hBefore : ∀ other ∈ before, query.cardinality? columns other = none)
    (hHere : query.cardinality? columns fragment = some text) :
    ∃ rest, query.cardinalityEdits columns = ⟨before.length, text⟩ :: rest := by
  rw [cardinalityEdits_eq, hFragments, List.zipIdx_append, List.filterMap_append,
    List.filterMap_eq_nil_iff.mpr, List.nil_append, List.zipIdx_cons, List.filterMap_cons,
    Nat.zero_add]
  · dsimp only
    rw [hHere]
    exact ⟨_, rfl⟩
  · intro position hPosition
    dsimp only
    rw [hBefore position.1 (List.fst_mem_of_mem_zipIdx hPosition)]
    rfl

/-- The first line that has a replacement. -/
def replaced? (query : Query) : Option Fragment :=
  query.fragments.find? (·.replacement.isSome)

theorem isEmpty_cardinalityEdits_of_replaced?
    (h : (query.replaced (query.cardinality? columns)).replaced? = none) :
    (query.cardinalityEdits columns).isEmpty = true := by
  rw [replaced?, List.find?_eq_none] at h
  rw [isEmpty_cardinalityEdits, Bool.not_eq_true', List.any_eq_false]
  exact fun fragment hFragment => h _ (List.mem_map_of_mem hFragment)

theorem editAll_again (query : Query) (columns : ColumnSet) :
    (query.replaced (query.cardinality? columns)).editAll (query.cardinalityEdits columns) =
      (query.replaced (query.cardinality? columns),
        (query.replaced (query.cardinality? columns)).replaced?.map fun fragment =>
          .alreadyReplaced fragment.text) := by
  cases hFirst : (query.replaced (query.cardinality? columns)).replaced? with
  | none =>
    rw [List.isEmpty_iff.mp (isEmpty_cardinalityEdits_of_replaced? hFirst)]
    rfl
  | some fragment =>
    rw [replaced?, replaced, List.find?_map, Option.map_eq_some_iff] at hFirst
    obtain ⟨original, hFound, rfl⟩ := hFirst
    obtain ⟨hHere, before, after, hFragments, hBefore⟩ := List.find?_eq_some_iff_append.mp hFound
    obtain ⟨text, hText⟩ := Option.isSome_iff_exists.mp hHere
    have hNone : ∀ other ∈ before, query.cardinality? columns other = none := fun other hOther => by
      simpa using hBefore other hOther
    obtain ⟨rest, hEdits⟩ := cardinalityEdits_eq_cons hFragments hNone hText
    have hLine : (query.replaced (query.cardinality? columns)).fragments[before.length]? =
        some { original with replacement := query.cardinality? columns original } := by
      rw [replaced, List.getElem?_map, hFragments]
      simp
    rw [hEdits, editAll, edit_of_replaced hLine hText]
    rfl

end Query

namespace Rule

variable {columns : ColumnSet} {query : Query} {count : Nat}

/-- The query as one application of the rule leaves it. -/
def appliedOnce (columns : ColumnSet) (query : Query) : Query :=
  query.replaced (query.cardinality? columns)

theorem apply_cardinality_fresh (columns : ColumnSet)
    (hFresh : ∀ fragment ∈ query.fragments, fragment.replacement = none) :
    Rule.cardinality.apply columns query =
      (appliedOnce columns query, .ok (appliedOnce columns query).replaced?.isSome) := by
  rw [apply_cardinality columns query hFresh, appliedOnce, Query.replaced?, List.isSome_find?,
    Query.replaced, List.any_map]
  rfl

theorem apply_cardinality_again (columns : ColumnSet) (query : Query) :
    Rule.cardinality.apply columns (appliedOnce columns query) =
      match (appliedOnce columns query).replaced? with
      | some fragment => (appliedOnce columns query, .error (.alreadyReplaced fragment.text))
      | none => (appliedOnce columns query, .ok false) := by
  have hSame : (appliedOnce columns query).cardinalityEdits columns =
      query.cardinalityEdits columns := query.cardinalityEdits_replaced _ columns
  have hAll : (appliedOnce columns query).editAll (query.cardinalityEdits columns) =
      (appliedOnce columns query, (appliedOnce columns query).replaced?.map fun fragment =>
        .alreadyReplaced fragment.text) := query.editAll_again columns
  rw [apply, edits_cardinality, hSame, hAll]
  cases hFirst : (appliedOnce columns query).replaced? with
  | some fragment => rfl
  | none =>
    dsimp only [Option.map_none]
    rw [ending_cardinality, hSame, Query.isEmpty_cardinalityEdits_of_replaced? hFirst]
    rfl

theorem applyAll_replicate_of_apply {rule : Rule}
    (h : rule.apply columns query = (query, .ok false)) (count : Nat) :
    applyAll columns (List.replicate count rule) query = (query, .ok false) := by
  induction count with
  | zero => rfl
  | succ count ih =>
    rw [List.replicate_succ, applyAll, h]
    dsimp only
    rw [ih]
    rfl

theorem applyAll_replicate_cardinality (columns : ColumnSet) (hTwice : 2 ≤ count)
    (hFresh : ∀ fragment ∈ query.fragments, fragment.replacement = none) :
    applyAll columns (List.replicate count .cardinality) query =
      match (appliedOnce columns query).replaced? with
      | some fragment => (appliedOnce columns query, .error (.alreadyReplaced fragment.text))
      | none => (appliedOnce columns query, .ok false) := by
  obtain ⟨later, rfl⟩ : ∃ later, count = later + 1 + 1 := ⟨count - 2, by omega⟩
  have hOnce := apply_cardinality_fresh columns hFresh
  have hAgain := apply_cardinality_again columns query
  rw [List.replicate_succ, applyAll, hOnce]
  cases hFirst : (appliedOnce columns query).replaced? with
  | some fragment =>
    rw [hFirst] at hAgain
    dsimp only at hAgain ⊢
    rw [List.replicate_succ, applyAll, hAgain]
    rfl
  | none =>
    rw [hFirst] at hAgain
    dsimp only
    rw [applyAll_replicate_of_apply hAgain]
    rfl

end Rule

namespace Patcher

variable {α : Type}

theorem not_proposes_of_replicate {patcher : Patcher} {count : Nat} (hTwice : 2 ≤ count)
    (hRules : patcher.rules = List.replicate count .cardinality) (columns : ColumnSet)
    (given : Source α) (candidate : Text) : ¬ patcher.Proposes columns given candidate := by
  rintro ⟨readings, flags, query, hReadings, hRan, hTrue, -⟩
  have hFresh : ∀ fragment ∈ (Query.ofReadings readings).fragments,
      fragment.replacement = none := by
    cases given with
    | text sql =>
      rw [Source.readings?, Query.readings?] at hReadings
      split at hReadings
      · obtain rfl := Except.ok.inj hReadings
        exact fun fragment => Query.replacement_eq_none_of_mem
      · cases hReadings
    | bytes | other => cases hReadings
  have hApplied := Rule.applyAll_of_ran hRan
  rw [hRules, Rule.applyAll_replicate_cardinality columns hTwice hFresh,
    List.contains_iff_mem.mpr hTrue] at hApplied
  split at hApplied <;> cases hApplied

/-- Rules leave every query as it was read, apart from replacements, and what one part of them has
replaced stays replaced so. They stop at the first that fails, and else say whether one of them
reported a change. Two or more times the cardinality rule fails if and only if the rule once reports
a change, at the first line that has been replaced, and leaves what the rule once leaves; so a
patcher with such rules hands everything back. -/
theorem replacements_set_once (columns : ColumnSet) :
    (∀ rules (query : Query), query.Keeps (Rule.applyAll columns rules query).1) ∧
      (∀ earlier later query, (Rule.applyAll columns earlier query).1.Keeps
        (Rule.applyAll columns (earlier ++ later) query).1) ∧
      (∀ rules query edited fault, Rule.applyAll columns rules query = (edited, .error fault) ↔
        ∃ earlier rule later flags between, rules = earlier ++ rule :: later ∧
          Rule.Ran columns earlier query flags between ∧
          rule.apply columns between = (edited, .error fault)) ∧
      (∀ rules query edited flag, Rule.applyAll columns rules query = (edited, .ok flag) ↔
        ∃ flags, Rule.Ran columns rules query flags edited ∧ (flag = true ↔ true ∈ flags)) ∧
      (∀ count query, 2 ≤ count → (∀ fragment ∈ query.fragments, fragment.replacement = none) →
        let once := Rule.cardinality.apply columns query
        let repeated := Rule.applyAll columns (List.replicate count .cardinality) query
        repeated.1 = once.1 ∧ ((∃ fault, repeated.2 = .error fault) ↔ once.2 = .ok true) ∧
          ∀ fault, repeated.2 = .error fault → ∃ fragment,
            once.1.fragments.find? (·.replacement.isSome) = some fragment ∧
              fault = .alreadyReplaced fragment.text) ∧
      ∀ (patcher : Patcher) count, 2 ≤ count →
        patcher.rules = List.replicate count .cardinality →
        ∀ sketchType held connection (given : Source α),
          (patcher.patch sketchType held connection given).answer = given := by
  refine ⟨fun rules query => Rule.keeps_applyAll rules columns query,
    Rule.keeps_applyAll_append columns, fun _ _ _ _ => Rule.applyAll_eq_error_iff,
    fun _ _ _ _ => Rule.applyAll_eq_ok_iff, fun count query hTwice hFresh => ?_, ?_⟩
  · dsimp only
    rw [Rule.apply_cardinality_fresh columns hFresh,
      Rule.applyAll_replicate_cardinality columns hTwice hFresh]
    cases hFirst : (Rule.appliedOnce columns query).replaced? with
    | some fragment =>
      refine ⟨rfl, ⟨fun _ => rfl, fun _ => ⟨_, rfl⟩⟩, fun fault hFault => ⟨fragment, hFirst, ?_⟩⟩
      exact (Except.error.inj hFault).symm
    | none =>
      refine ⟨rfl, ⟨?_, nofun⟩, nofun⟩
      rintro ⟨fault, hFault⟩
      cases hFault
  · intro patcher count hTwice hRules sketchType held connection given
    apply (patcher.outcome_patch sketchType held connection given).answer_of_not_accepts
    exact fun candidate hAccepts =>
      not_proposes_of_replicate hTwice hRules _ given candidate hAccepts.1

/-- The rule replaces the sum, then finds it replaced. -/
theorem replacements_set_once_sumOfSketch :
    2 ≤ 2 ∧ (∀ fragment ∈ (Query.ofLines sumOfSketch).fragments, fragment.replacement = none) ∧
      (Rule.applyAll ["s.b.v".toList] (List.replicate 2 .cardinality)
          (Query.ofLines sumOfSketch)).2 =
        .error (.alreadyReplaced "sum(\"t\".\"v\") as \"m\"") ∧
      (({ rules := List.replicate 2 .cardinality } : Patcher).patch "hll" (some ["s.b.v"]) none
        (.text (join "\n" sumOfSketch) : Source Unit)).answer = .text (join "\n" sumOfSketch) := by
  have hFresh : ∀ fragment ∈ (Query.ofLines sumOfSketch).fragments, fragment.replacement = none :=
    fun _ => Query.replacement_eq_none_of_mem
  obtain ⟨-, -, -, -, hRepeated, hPatch⟩ := replacements_set_once (α := Unit) ["s.b.v".toList]
  obtain ⟨-, hFails, hFault⟩ := hRepeated 2 _ (Nat.le_refl 2) hFresh
  obtain ⟨fault, hSome⟩ := hFails.mpr rfl
  obtain ⟨fragment, hFirst, rfl⟩ := hFault fault hSome
  obtain rfl := Option.some.inj (hFirst.symm.trans rfl)
  exact ⟨Nat.le_refl 2, hFresh, hSome, hPatch _ 2 (Nat.le_refl 2) rfl _ _ _ _⟩

end Patcher

end QueryPatch
