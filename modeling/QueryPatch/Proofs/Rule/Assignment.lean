import QueryPatch.Proofs.Rule.Sequence

/-! # Replacements are set once

Whatever rules do to a query, and however they end, they can only set replacements that are not set
yet. So each part of a list of rules keeps the replacements that were made before it, also if one of
its rules fails halfway.
-/
set_option autoImplicit false

namespace QueryPatch

/-- The same line as it was read, with the replacement that it had, if it had one. -/
structure Fragment.Keeps (before after : Fragment) : Prop where
  text_eq : after.text = before.text
  role_eq : after.role = before.role
  attributes_eq : after.attributes = before.attributes
  replacement_eq : ∀ line, before.replacement = some line → after.replacement = some line

/-- The same lines in the same order, and the same registries. -/
structure Query.Keeps (before after : Query) : Prop where
  length_eq : after.fragments.length = before.fragments.length
  keeps_line : ∀ (line : Nat) fragment, before.fragments[line]? = some fragment →
    ∃ changed, after.fragments[line]? = some changed ∧ fragment.Keeps changed
  aliases_eq : after.aliases = before.aliases
  joins_eq : after.joins = before.joins

namespace Fragment

variable {before between after : Fragment}

theorem Keeps.refl (fragment : Fragment) : fragment.Keeps fragment := ⟨rfl, rfl, rfl, fun _ => id⟩

theorem Keeps.trans (h : before.Keeps between) (h' : between.Keeps after) :
    before.Keeps after where
  text_eq := h'.text_eq.trans h.text_eq
  role_eq := h'.role_eq.trans h.role_eq
  attributes_eq := h'.attributes_eq.trans h.attributes_eq
  replacement_eq line hLine := h'.replacement_eq line (h.replacement_eq line hLine)

theorem keeps_replace {line : Option Text} (h : before.replace line = .ok after) :
    before.Keeps after := by
  rw [replace] at h
  split at h
  · cases h
  · rename_i hNone
    obtain rfl := Except.ok.inj h
    refine ⟨rfl, rfl, rfl, fun other hOther => ?_⟩
    cases hNone.symm.trans hOther

end Fragment

namespace Query

variable {before between after query : Query}

theorem Keeps.refl (query : Query) : query.Keeps query :=
  ⟨rfl, fun _ fragment h => ⟨fragment, h, .refl fragment⟩, rfl, rfl⟩

theorem Keeps.trans (h : before.Keeps between) (h' : between.Keeps after) :
    before.Keeps after where
  length_eq := h'.length_eq.trans h.length_eq
  keeps_line line fragment hFragment := by
    obtain ⟨changed, hChanged, hKeeps⟩ := h.keeps_line line fragment hFragment
    obtain ⟨final, hFinal, hKeeps'⟩ := h'.keeps_line line changed hChanged
    exact ⟨final, hFinal, hKeeps.trans hKeeps'⟩
  aliases_eq := h'.aliases_eq.trans h.aliases_eq
  joins_eq := h'.joins_eq.trans h.joins_eq

theorem keeps_replaceAt {position : Nat} {line : Text}
    (h : query.replaceAt position line = .ok after) : query.Keeps after := by
  rw [replaceAt] at h
  split at h
  · cases h
  · rename_i fragment hFragment
    cases hReplace : fragment.replace (some line) with
    | error fault =>
      rw [hReplace] at h
      cases h
    | ok changed =>
      rw [hReplace] at h
      obtain rfl := Except.ok.inj h
      refine ⟨List.length_set, fun other old hOld => ?_, rfl, rfl⟩
      by_cases hHere : position = other
      · subst hHere
        obtain rfl := Option.some.inj (hFragment.symm.trans hOld)
        have hLength := (List.getElem?_eq_some_iff.mp hFragment).1
        exact ⟨changed, List.getElem?_set_self hLength, Fragment.keeps_replace hReplace⟩
      · exact ⟨old, (List.getElem?_set_ne hHere).trans hOld, .refl old⟩

theorem keeps_edit {next : Edit} (h : query.edit next = .ok after) : query.Keeps after := by
  rw [edit] at h
  split at h
  · cases h
  · exact keeps_replaceAt h

theorem keeps_editAll (query : Query) (edits : List Edit) :
    query.Keeps (query.editAll edits).1 := by
  induction edits generalizing query with
  | nil => exact .refl query
  | cons next rest ih =>
    rw [editAll]
    split
    · rename_i changed hEdit
      exact (keeps_edit hEdit).trans (ih changed)
    · exact .refl query

end Query

namespace Rule

variable {columns : ColumnSet} {rules : List Rule} {query edited : Query} {fault : Fault}

theorem keeps_apply (rule : Rule) (columns : ColumnSet) (query : Query) :
    query.Keeps (rule.apply columns query).1 := by
  have h := query.keeps_editAll (rule.edits query columns)
  rw [apply]
  split
  all_goals
    rename_i hEdits
    rw [hEdits] at h
    exact h

theorem applyAll_append (columns : ColumnSet) (earlier later : List Rule) (query : Query) :
    applyAll columns (earlier ++ later) query =
      match applyAll columns earlier query with
      | (edited, .error fault) => (edited, .error fault)
      | (edited, .ok changed) =>
        let (final, outcome) := applyAll columns later edited
        (final, outcome.map (changed || ·)) := by
  induction earlier generalizing query with
  | nil =>
    dsimp only [List.nil_append, applyAll]
    obtain ⟨final, outcome⟩ := applyAll columns later query
    cases outcome <;> rfl
  | cons rule rest ih =>
    rw [List.cons_append, applyAll, applyAll]
    obtain ⟨between, outcome⟩ := rule.apply columns query
    cases outcome with
    | error fault => rfl
    | ok flag =>
      dsimp only
      rw [ih]
      obtain ⟨edited, outcome⟩ := applyAll columns rest between
      cases outcome with
      | error fault => rfl
      | ok changed =>
        dsimp only [Except.map]
        obtain ⟨final, outcome⟩ := applyAll columns later edited
        cases outcome with
        | error fault => rfl
        | ok last => exact congrArg (fun flag => (final, Except.ok flag)) (Bool.or_assoc ..).symm

theorem keeps_applyAll (rules : List Rule) (columns : ColumnSet) (query : Query) :
    query.Keeps (applyAll columns rules query).1 := by
  induction rules generalizing query with
  | nil => exact .refl query
  | cons rule rest ih =>
    have hRule := rule.keeps_apply columns query
    rw [applyAll]
    split
    all_goals
      rename_i hApply
      rw [hApply] at hRule
    · exact hRule
    · exact hRule.trans (ih _)

/-- What the rules have done up to some point stays done, whatever comes after it. -/
theorem keeps_applyAll_append (columns : ColumnSet) (earlier later : List Rule) (query : Query) :
    (applyAll columns earlier query).1.Keeps (applyAll columns (earlier ++ later) query).1 := by
  rw [applyAll_append]
  split
  all_goals
    rename_i hEarlier
    rw [hEarlier]
  · exact .refl _
  · exact keeps_applyAll later columns _

theorem applyAll_of_failing {earlier later : List Rule} {rule : Rule} {flags : List Bool}
    {between : Query} (hRan : Ran columns earlier query flags between)
    (hRule : rule.apply columns between = (edited, .error fault)) :
    applyAll columns (earlier ++ rule :: later) query = (edited, .error fault) := by
  rw [applyAll_append, applyAll_of_ran hRan]
  dsimp only
  rw [applyAll, hRule]
  rfl

/-- The query is left as the first rule that fails leaves it. -/
theorem applyAll_eq_error_iff :
    applyAll columns rules query = (edited, .error fault) ↔
      ∃ earlier rule later flags between, rules = earlier ++ rule :: later ∧
        Ran columns earlier query flags between ∧
        rule.apply columns between = (edited, .error fault) := by
  constructor
  · intro h
    rcases ran_or_failed columns rules query with ⟨flags, after, hRan⟩ |
      ⟨_, earlier, rule, later, flags, between, rfl, hRan, hFault⟩
    · rw [applyAll_of_ran hRan] at h
      cases h
    · obtain ⟨⟨left, _⟩, hRule⟩ : ∃ result, rule.apply columns between = result := ⟨_, rfl⟩
      rw [hRule] at hFault
      obtain rfl := hFault
      obtain ⟨rfl, hSame⟩ := Prod.mk.inj ((applyAll_of_failing hRan hRule).symm.trans h)
      obtain rfl := Except.error.inj hSame
      exact ⟨earlier, rule, later, flags, between, rfl, hRan, hRule⟩
  · rintro ⟨earlier, rule, later, flags, between, rfl, hRan, hRule⟩
    exact applyAll_of_failing hRan hRule

/-- Without a fault all rules run, and the result is whether one of them reported a change. -/
theorem applyAll_eq_ok_iff {flag : Bool} :
    applyAll columns rules query = (edited, .ok flag) ↔
      ∃ flags, Ran columns rules query flags edited ∧ (flag = true ↔ true ∈ flags) := by
  constructor
  · intro h
    rcases ran_or_failed columns rules query with ⟨flags, after, hRan⟩ | ⟨fault, hFailed⟩
    · obtain ⟨rfl, hFlag⟩ := Prod.mk.inj ((applyAll_of_ran hRan).symm.trans h)
      obtain rfl := Except.ok.inj hFlag
      exact ⟨flags, hRan, List.contains_iff_mem⟩
    · have hFault := applyAll_of_failed hFailed
      rw [h] at hFault
      cases hFault
  · rintro ⟨flags, hRan, hFlag⟩
    rw [applyAll_of_ran hRan, Bool.eq_iff_iff.mpr (List.contains_iff_mem.trans hFlag.symm)]

end Rule

end QueryPatch
