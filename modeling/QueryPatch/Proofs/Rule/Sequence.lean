import QueryPatch.Rule.Basic

/-! # Rules one after the other

A list of rules either runs to its end, and then it reports whether one of its rules reported a
change, or it stops at its first rule that fails.
-/
set_option autoImplicit false

namespace QueryPatch.Rule

/-- All rules ran without a fault, each on the query that the one before it left; what each of them
reported stands in the same order. -/
inductive Ran (columns : ColumnSet) : List Rule → Query → List Bool → Query → Prop
  | nil {query : Query} : Ran columns [] query [] query
  | cons {rule : Rule} {rest : List Rule} {before between after : Query} {flag : Bool}
      {flags : List Bool} :
      rule.apply columns before = (between, .ok flag) →
      Ran columns rest between flags after → Ran columns (rule :: rest) before (flag :: flags) after

/-- Some rule failed, after all rules before it had run. -/
def Failed (columns : ColumnSet) (rules : List Rule) (query : Query) (fault : Fault) : Prop :=
  ∃ earlier rule later flags between, rules = earlier ++ rule :: later ∧
    Ran columns earlier query flags between ∧ (rule.apply columns between).2 = .error fault

variable {columns : ColumnSet} {rules : List Rule} {before : Query}

theorem applyAll_of_ran {flags : List Bool} {after : Query}
    (h : Ran columns rules before flags after) :
    applyAll columns rules before = (after, .ok (flags.contains true)) := by
  induction h with
  | nil => rfl
  | cons hRule _ ih => simp [applyAll, hRule, ih, Except.map]

theorem applyAll_of_failed {fault : Fault} (h : Failed columns rules before fault) :
    (applyAll columns rules before).2 = .error fault := by
  obtain ⟨earlier, rule, later, flags, between, rfl, hRan, hFault⟩ := h
  induction hRan with
  | nil =>
    rename_i query
    obtain ⟨edited, hApply⟩ : ∃ edited, rule.apply columns query = (edited, .error fault) :=
      ⟨_, Prod.ext rfl hFault⟩
    simp [applyAll, hApply]
  | cons hRule _ ih => simp [applyAll, hRule, ih hFault, Except.map]

theorem ran_or_failed (columns : ColumnSet) (rules : List Rule) (before : Query) :
    (∃ flags after, Ran columns rules before flags after) ∨
      ∃ fault, Failed columns rules before fault := by
  induction rules generalizing before with
  | nil => exact .inl ⟨[], before, .nil⟩
  | cons rule rest ih =>
    obtain ⟨⟨between, outcome⟩, hRule⟩ : ∃ result, rule.apply columns before = result := ⟨_, rfl⟩
    cases outcome with
    | error fault =>
      exact .inr ⟨fault, [], rule, rest, [], before, rfl, .nil, by rw [hRule]⟩
    | ok flag =>
      rcases ih between with ⟨flags, after, hRan⟩ |
        ⟨fault, earlier, failing, later, flags, last, rfl, hRan, hFault⟩
      · exact .inl ⟨flag :: flags, after, .cons hRule hRan⟩
      · exact .inr ⟨fault, rule :: earlier, failing, later, flag :: flags, last, rfl,
          .cons hRule hRan, hFault⟩

theorem Ran.unique {flags flags' : List Bool} {after after' : Query}
    (h : Ran columns rules before flags after) (h' : Ran columns rules before flags' after') :
    after = after' ∧ flags = flags' := by
  induction h generalizing flags' after' with
  | nil =>
    cases h'
    exact ⟨rfl, rfl⟩
  | cons hRule _ ih =>
    cases h' with
    | cons hRule' hRest' =>
      rw [hRule] at hRule'
      cases hRule'
      obtain ⟨rfl, rfl⟩ := ih hRest'
      exact ⟨rfl, rfl⟩

theorem Ran.not_failed {flags : List Bool} {after : Query} {fault : Fault}
    (h : Ran columns rules before flags after) : ¬ Failed columns rules before fault := by
  intro hFailed
  have hFault := applyAll_of_failed hFailed
  rw [applyAll_of_ran h] at hFault
  cases hFault

end QueryPatch.Rule
