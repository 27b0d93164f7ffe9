import QueryPatch.Patch.Basic
import QueryPatch.Proofs.Rule.Sequence

/-! # The outcomes of patching

Patching ends in one of five ways. Only the last one hands back another text than was given.
-/
set_option autoImplicit false

namespace QueryPatch.Patcher

variable {α : Type}

/-- The text that the rules ask for: they all ran, and one of them reported a change. -/
def Proposes (patcher : Patcher) (columns : ColumnSet) (given : Source α) (candidate : Text) :
    Prop :=
  ∃ readings flags query, given.readings? patcher.settings.separator = .ok readings ∧
    Rule.Ran columns patcher.rules (.ofReadings readings) flags query ∧ true ∈ flags ∧
    candidate = Text.join patcher.settings.separator (query.fragments.map Fragment.rendered)

def Accepts (patcher : Patcher) (columns : ColumnSet) (given : Source α) (candidate : Text) :
    Prop :=
  patcher.Proposes columns given candidate ∧
    (patcher.settings.validates = true → patcher.validator candidate = .accepted)

/-- The faults that end the work on a query: of its reading, of a rule, or of the validation. -/
inductive Raises (patcher : Patcher) (columns : ColumnSet) (given : Source α) : Fault → Prop
  | reading {fault : Fault} :
      given.readings? patcher.settings.separator = .error fault → Raises patcher columns given fault
  | rule {fault : Fault} {readings : List Reading} :
      given.readings? patcher.settings.separator = .ok readings →
      Rule.Failed columns patcher.rules (.ofReadings readings) fault →
      Raises patcher columns given fault
  | validation {fault : Fault} {candidate : Text} :
      patcher.Proposes columns given candidate → patcher.settings.validates = true →
      (patcher.validator candidate).fault? = some fault → Raises patcher columns given fault

/-- Everything that patching can come to, if the columns are looked up as given. -/
inductive Outcome (patcher : Patcher) (held : Option ColumnSet) (lookup : Lookup)
    (given : Source α) : Patched α → Prop
  | unreadable {fault : Fault} :
      given.readings? patcher.settings.separator = .error fault →
      Outcome patcher held lookup given
        { answer := given, held, log := [failure fault] }
  | ruleFailed {readings : List Reading} {fault : Fault} :
      given.readings? patcher.settings.separator = .ok readings →
      Rule.Failed lookup.columns patcher.rules (.ofReadings readings) fault →
      Outcome patcher held lookup given
        { answer := given, held := lookup.held, usage := lookup.usage
          log := readings.flatMap (·.log) ++ lookup.log ++ [failure fault] }
  | unchanged {readings : List Reading} {flags : List Bool} {query : Query} :
      given.readings? patcher.settings.separator = .ok readings →
      Rule.Ran lookup.columns patcher.rules (.ofReadings readings) flags query → true ∉ flags →
      Outcome patcher held lookup given
        { answer := given, held := lookup.held, usage := lookup.usage
          log := readings.flatMap (·.log) ++ lookup.log }
  | rejected {readings : List Reading} {candidate : Text} {fault : Fault} :
      given.readings? patcher.settings.separator = .ok readings →
      patcher.Proposes lookup.columns given candidate → patcher.settings.validates = true →
      (patcher.validator candidate).fault? = some fault →
      Outcome patcher held lookup given
        { answer := given, held := lookup.held, usage := lookup.usage
          log := readings.flatMap (·.log) ++ lookup.log ++ [failure fault]
          validated := [(candidate, patcher.settings.dialect)] }
  | accepted {readings : List Reading} {candidate : Text} :
      given.readings? patcher.settings.separator = .ok readings →
      patcher.Accepts lookup.columns given candidate →
      Outcome patcher held lookup given
        { answer := .text candidate, held := lookup.held, usage := lookup.usage
          log := readings.flatMap (·.log) ++ lookup.log ++
            [.debug .queries ("rewritten to:\n" ++ candidate)]
          validated := if patcher.settings.validates then
            [(candidate, patcher.settings.dialect)] else [] }

theorem fault?_eq_none_iff {verdict : Verdict} : verdict.fault? = none ↔ verdict = .accepted := by
  cases verdict <;> simp [Verdict.fault?]

theorem outcome_patch (patcher : Patcher) (sketchType : Text) (held : Option ColumnSet)
    (connection : Option Connection) (given : Source α) :
    Outcome patcher held (.of sketchType held connection) given
      (patcher.patch sketchType held connection given) := by
  rw [patch]
  cases hReadings : given.readings? patcher.settings.separator with
  | error fault => exact .unreadable hReadings
  | ok readings =>
    dsimp only
    generalize Lookup.of sketchType held connection = lookup
    rw [finish]
    rcases Rule.ran_or_failed lookup.columns patcher.rules (.ofReadings readings) with
      ⟨flags, query, hRan⟩ | ⟨fault, hFailed⟩
    · rw [Rule.applyAll_of_ran hRan]
      cases hFlags : flags.contains true with
      | false =>
        refine .unchanged hReadings hRan fun hTrue => ?_
        rw [List.contains_iff_mem.mpr hTrue] at hFlags
        cases hFlags
      | true =>
        have hProposes : patcher.Proposes lookup.columns given
            (query.rendered patcher.settings.separator) :=
          ⟨readings, flags, query, hReadings, hRan, List.contains_iff_mem.mp hFlags, rfl⟩
        dsimp only
        generalize query.rendered patcher.settings.separator = candidate at hProposes
        rw [check]
        cases hValidates : patcher.settings.validates with
        | false =>
          have h : Outcome patcher held lookup given _ := .accepted hReadings
            ⟨hProposes, fun h => by rw [hValidates] at h; cases h⟩
          rw [hValidates] at h
          exact h
        | true =>
          rw [if_pos rfl]
          cases hFault : (patcher.validator candidate).fault? with
          | none =>
            have h : Outcome patcher held lookup given _ := .accepted hReadings
              ⟨hProposes, fun _ => fault?_eq_none_iff.mp hFault⟩
            rw [hValidates] at h
            exact h
          | some fault => exact .rejected hReadings hProposes hValidates hFault
    · obtain ⟨⟨edited, outcome⟩, hApply⟩ :
          ∃ result, Rule.applyAll lookup.columns patcher.rules (.ofReadings readings) = result :=
        ⟨_, rfl⟩
      have hOutcome := Rule.applyAll_of_failed hFailed
      rw [hApply] at hOutcome
      obtain rfl : outcome = .error fault := hOutcome
      rw [hApply]
      exact .ruleFailed hReadings hFailed

variable {patcher : Patcher} {columns : ColumnSet} {given : Source α}

section exclusive

variable {candidate candidate' : Text} {fault fault' : Fault} {readings : List Reading}

theorem Proposes.not_unreadable (h : patcher.Proposes columns given candidate) :
    given.readings? patcher.settings.separator ≠ .error fault := by
  obtain ⟨_, _, _, hReadings, _⟩ := h
  simp [hReadings]

theorem Proposes.not_failed (h : patcher.Proposes columns given candidate)
    (hReadings : given.readings? patcher.settings.separator = .ok readings) :
    ¬ Rule.Failed columns patcher.rules (.ofReadings readings) fault := by
  obtain ⟨readings', _, _, hReadings', hRan, _⟩ := h
  rw [hReadings] at hReadings'
  cases hReadings'
  exact hRan.not_failed

theorem Proposes.true_mem {flags : List Bool} {query : Query}
    (h : patcher.Proposes columns given candidate)
    (hReadings : given.readings? patcher.settings.separator = .ok readings)
    (hRan : Rule.Ran columns patcher.rules (.ofReadings readings) flags query) : true ∈ flags := by
  obtain ⟨readings', _, _, hReadings', hRan', hFlag, _⟩ := h
  rw [hReadings] at hReadings'
  cases hReadings'
  obtain ⟨rfl, rfl⟩ := hRan.unique hRan'
  exact hFlag

theorem Proposes.unique (h : patcher.Proposes columns given candidate)
    (h' : patcher.Proposes columns given candidate') : candidate = candidate' := by
  obtain ⟨readings, flags, query, hReadings, hRan, -, rfl⟩ := h
  obtain ⟨readings', flags', query', hReadings', hRan', -, rfl⟩ := h'
  rw [hReadings] at hReadings'
  cases hReadings'
  obtain ⟨rfl, -⟩ := hRan.unique hRan'
  rfl

theorem Raises.unique (h : patcher.Raises columns given fault)
    (h' : patcher.Raises columns given fault') : fault = fault' := by
  cases h with
  | reading hError =>
    cases h' with
    | reading hError' =>
      rw [hError] at hError'
      exact Except.error.inj hError'
    | rule hReadings' =>
      rw [hError] at hReadings'
      cases hReadings'
    | validation hProposes' => exact absurd hError hProposes'.not_unreadable
  | rule hReadings hFailed =>
    cases h' with
    | reading hError' =>
      rw [hReadings] at hError'
      cases hError'
    | rule hReadings' hFailed' =>
      rw [hReadings] at hReadings'
      cases hReadings'
      have hFault := Rule.applyAll_of_failed hFailed
      rw [Rule.applyAll_of_failed hFailed'] at hFault
      exact (Except.error.inj hFault).symm
    | validation hProposes' => exact absurd hFailed (hProposes'.not_failed hReadings)
  | validation hProposes _ hFault =>
    cases h' with
    | reading hError' => exact absurd hError' hProposes.not_unreadable
    | rule hReadings' hFailed' => exact absurd hFailed' (hProposes.not_failed hReadings')
    | validation hProposes' _ hFault' =>
      rw [hProposes.unique hProposes', hFault'] at hFault
      exact (Option.some.inj hFault).symm

theorem Accepts.not_raises (h : patcher.Accepts columns given candidate) :
    ¬ patcher.Raises columns given fault := by
  intro hRaises
  cases hRaises with
  | reading hError => exact h.1.not_unreadable hError
  | rule hReadings hFailed => exact h.1.not_failed hReadings hFailed
  | validation hProposes hValidates hFault =>
    rw [← h.1.unique hProposes, h.2 hValidates] at hFault
    cases hFault

end exclusive

namespace Outcome

variable {patcher : Patcher} {held : Option ColumnSet} {lookup : Lookup} {given : Source α}
  {patched : Patched α}

theorem answer_of_accepts {candidate : Text} (h : Outcome patcher held lookup given patched)
    (hAccepts : patcher.Accepts lookup.columns given candidate) :
    patched.answer = .text candidate := by
  obtain ⟨hProposes, hVerdict⟩ := hAccepts
  cases h with
  | unreadable hError => exact absurd hError hProposes.not_unreadable
  | ruleFailed hReadings hFailed => exact absurd hFailed (hProposes.not_failed hReadings)
  | unchanged hReadings hRan hFlags => exact absurd (hProposes.true_mem hReadings hRan) hFlags
  | rejected _ hProposed hValidates hFault =>
    rw [hProposed.unique hProposes, hVerdict hValidates] at hFault
    cases hFault
  | accepted _ hAccepted => rw [hAccepted.1.unique hProposes]

theorem answer_of_not_accepts (h : Outcome patcher held lookup given patched)
    (hNone : ∀ candidate, ¬ patcher.Accepts lookup.columns given candidate) :
    patched.answer = given := by
  cases h with
  | unreadable | ruleFailed | unchanged | rejected => rfl
  | accepted _ hAccepted => exact absurd hAccepted (hNone _)

theorem validated_of_proposes {candidate : Text} (h : Outcome patcher held lookup given patched)
    (hProposes : patcher.Proposes lookup.columns given candidate) :
    patched.validated =
      if patcher.settings.validates then [(candidate, patcher.settings.dialect)] else [] := by
  cases h with
  | unreadable hError => exact absurd hError hProposes.not_unreadable
  | ruleFailed hReadings hFailed => exact absurd hFailed (hProposes.not_failed hReadings)
  | unchanged hReadings hRan hFlags => exact absurd (hProposes.true_mem hReadings hRan) hFlags
  | rejected _ hProposed hValidates => rw [hProposed.unique hProposes, if_pos hValidates]
  | accepted _ hAccepted => rw [hAccepted.1.unique hProposes]

theorem validated_of_not_proposes (h : Outcome patcher held lookup given patched)
    (hNone : ∀ candidate, ¬ patcher.Proposes lookup.columns given candidate) :
    patched.validated = [] := by
  cases h with
  | unreadable | ruleFailed | unchanged => rfl
  | rejected _ hProposed => exact absurd hProposed (hNone _)
  | accepted _ hAccepted => exact absurd hAccepted.1 (hNone _)

theorem held_of_readable {readings : List Reading} (h : Outcome patcher held lookup given patched)
    (hReadings : given.readings? patcher.settings.separator = .ok readings) :
    patched.held = lookup.held ∧ patched.usage = lookup.usage := by
  cases h with
  | unreadable hError =>
    rw [hReadings] at hError
    cases hError
  | ruleFailed | unchanged | rejected | accepted => exact ⟨rfl, rfl⟩

theorem held_of_warm {columns : ColumnSet} {sketchType : Text} {connection : Option Connection}
    (h : Outcome patcher (some columns) (.of sketchType (some columns) connection) given patched) :
    patched.held = some columns := by
  cases h <;> rfl

theorem held_of_unreadable {fault : Fault} (h : Outcome patcher held lookup given patched)
    (hError : given.readings? patcher.settings.separator = .error fault) :
    patched.held = held ∧ patched.usage = {} := by
  cases h with
  | unreadable => exact ⟨rfl, rfl⟩
  | ruleFailed hReadings | unchanged hReadings | rejected hReadings | accepted hReadings =>
    rw [hReadings] at hError
    cases hError

end Outcome

end QueryPatch.Patcher
