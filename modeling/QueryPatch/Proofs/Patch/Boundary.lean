import QueryPatch.Proofs.Catalog.Population
import QueryPatch.Proofs.Patch.Outcome
import QueryPatch.Proofs.Session.Use

/-! # The boundary of patching

Whatever fails while a query is patched, the query comes back as it was given and the fault is
reported once. The catalog is asked as for the columns alone, and not at all if there are no lines.
-/
set_option autoImplicit false

namespace QueryPatch

section log

/-- The records of the patcher itself, in order. -/
def Log.ofPatching (log : Log) : Log := log.filter fun record => record.channel = .patching

theorem Log.ofPatching_append (first second : Log) :
    ofPatching (first ++ second) = ofPatching first ++ ofPatching second :=
  List.filter_append ..

theorem Log.ofPatching_eq_nil {log : Log} (h : ∀ record ∈ log, record.channel ≠ .patching) :
    ofPatching log = [] :=
  List.filter_eq_nil_iff.mpr fun record hMem => by simpa using h record hMem

theorem Reading.channel_of_mem_judge {recognisers : List Recogniser} {clause : Clause} {text : Text}
    {reading : Reading} (h : ∀ record ∈ reading.log, record.channel = .reading) :
    ∀ record ∈ (reading.judge recognisers clause text).log, record.channel = .reading := by
  induction recognisers generalizing reading with
  | nil => exact h
  | cons recogniser rest ih =>
    apply ih
    rw [recognise]
    split
    · split
      · intro record hMem
        rcases List.mem_append.mp hMem with hMem | hMem
        · exact h record hMem
        · rw [List.mem_singleton.mp hMem]
          rfl
      · exact h
    · exact h

theorem channel_of_mem_readLines {recognisers : List Recogniser} {clause : Clause}
    {lines : List Text} :
    ∀ record ∈ (readLines recognisers clause lines).flatMap (·.log), record.channel = .reading := by
  induction lines generalizing clause with
  | nil =>
    intro record hMem
    cases hMem
  | cons line rest ih =>
    intro record hMem
    rw [readLines] at hMem
    split at hMem
    · rcases List.mem_append.mp hMem with hMem | hMem
      · cases hMem
      · exact ih record hMem
    · rcases List.mem_append.mp hMem with hMem | hMem
      · exact Reading.channel_of_mem_judge (fun _ hMem => by cases hMem) record hMem
      · exact ih record hMem

theorem Source.channel_of_mem_readings {α : Type} {given : Source α} {separator : Text}
    {readings : List Reading} (h : given.readings? separator = .ok readings) :
    ∀ record ∈ readings.flatMap (·.log), record.channel = .reading := by
  cases given with
  | text sql =>
    rw [Source.readings?, Query.readings?] at h
    split at h
    · cases h
      exact channel_of_mem_readLines
    · cases h
  | bytes | other => cases h

theorem Lookup.channel_of_mem_log (sketchType : Text) (held : Option ColumnSet)
    (connection : Option Connection) :
    ∀ record ∈ (Lookup.of sketchType held connection).log, record.channel ≠ .patching := by
  cases held with
  | some columns =>
    intro record hMem
    cases hMem
  | none =>
    rw [Lookup.of]
    have hPopulation := population_populate sketchType connection
    generalize populate sketchType connection = lookup at hPopulation
    cases hPopulation with
    | answered => simp [Record.catalogQuery, Record.debug]
    | failed =>
      intro record hMem
      rcases List.mem_cons.mp hMem with rfl | hMem
      · intro hSame
        cases hSame
      · rw [channel_of_mem_failureLog _ _ record hMem]
        intro hSame
        cases hSame
    | absent =>
      intro record hMem
      rcases List.mem_cons.mp hMem with rfl | hMem
      · intro hSame
        cases hSame
      · rw [channel_of_mem_failureLog _ _ record hMem]
        intro hSame
        cases hSame

end log

namespace Patcher.Outcome

variable {α : Type} {patcher : Patcher} {held : Option ColumnSet} {lookup : Lookup}
  {given : Source α} {patched : Patched α}

theorem raises_or_not (h : Outcome patcher held lookup given patched)
    (hLookup : ∀ record ∈ lookup.log, record.channel ≠ .patching) :
    (∃ fault, patcher.Raises lookup.columns given fault ∧
      patched.log.ofPatching = [failure fault]) ∨
      (∀ fault, ¬ patcher.Raises lookup.columns given fault) ∧ patched.log.ofPatching = [] := by
  have hBefore : ∀ readings, given.readings? patcher.settings.separator = .ok readings →
      Log.ofPatching (readings.flatMap (·.log) ++ lookup.log) = [] := by
    intro readings hReadings
    apply Log.ofPatching_eq_nil
    intro record hMem
    rcases List.mem_append.mp hMem with hMem | hMem
    · rw [Source.channel_of_mem_readings hReadings record hMem]
      nofun
    · exact hLookup record hMem
  cases h with
  | unreadable hError => exact .inl ⟨_, .reading hError, rfl⟩
  | ruleFailed hReadings hFailed =>
    refine .inl ⟨_, .rule hReadings hFailed, ?_⟩
    rw [Log.ofPatching_append, hBefore _ hReadings]
    rfl
  | unchanged hReadings hRan hFlags =>
    refine .inr ⟨?_, hBefore _ hReadings⟩
    intro fault hRaises
    cases hRaises with
    | reading hError =>
      rw [hReadings] at hError
      cases hError
    | rule hReadings' hFailed =>
      rw [hReadings] at hReadings'
      cases hReadings'
      exact hRan.not_failed hFailed
    | validation hProposes => exact hFlags (hProposes.true_mem hReadings hRan)
  | rejected hReadings hProposes hValidates hFault =>
    refine .inl ⟨_, .validation hProposes hValidates hFault, ?_⟩
    rw [Log.ofPatching_append, hBefore _ hReadings]
    rfl
  | accepted hReadings hAccepts =>
    refine .inr ⟨fun fault => hAccepts.not_raises, ?_⟩
    rw [Log.ofPatching_append, hBefore _ hReadings]
    rfl

end Patcher.Outcome

namespace Session

variable {τ ν α : Type} [LE τ] [DecidableLE τ] [Add τ]

/-- Patching answers for every text and every other value, in every session. The answer is the text
that the rules propose, if that is accepted, and else what was given; the validator sees the
proposed text alone; each fault is reported once. What is held is what asking for the columns would
have left, provided that there were lines to read. -/
theorem patch_fails_open (patcher : Patcher) (session : Session τ ν) (given : Source α)
    (name : Option Text) :
    let columns :=
      (Lookup.of session.facts.sketchType session.facts.held (session.connection? name)).columns
    let after := (session.step patcher (.patch given name)).1
    let report := (session.step patcher (.patch given name)).2
    ∃ answer, report.answer = .source answer ∧
      (∀ candidate, patcher.Accepts columns given candidate → answer = .text candidate) ∧
      ((∀ candidate, ¬ patcher.Accepts columns given candidate) → answer = given) ∧
      (∀ candidate, patcher.Proposes columns given candidate → report.validated =
        if patcher.settings.validates then [(candidate, patcher.settings.dialect)] else []) ∧
      ((∀ candidate, ¬ patcher.Proposes columns given candidate) → report.validated = []) ∧
      (∀ fault, patcher.Raises columns given fault →
        report.log.ofPatching = [Patcher.failure fault]) ∧
      ((∀ fault, ¬ patcher.Raises columns given fault) → report.log.ofPatching = []) ∧
      (∀ readings, given.readings? patcher.settings.separator = .ok readings →
        after = (session.step patcher (.columns name : Operation τ ν α)).1) ∧
      (∀ fault, given.readings? patcher.settings.separator = .error fault →
        after.facts = session.facts ∧
          ∀ other, Keyed.get? after.connections other = Keyed.get? session.connections other) := by
  have h := Patcher.outcome_patch patcher session.facts.sketchType session.facts.held
    (session.connection? name) given
  have hLookup := Lookup.channel_of_mem_log session.facts.sketchType session.facts.held
    (session.connection? name)
  refine ⟨_, rfl, fun _ => h.answer_of_accepts, h.answer_of_not_accepts,
    fun _ => h.validated_of_proposes, h.validated_of_not_proposes, ?_, ?_, ?_, ?_⟩
  · intro fault hRaises
    rcases h.raises_or_not hLookup with ⟨fault', hRaises', hLog⟩ | ⟨hNone, -⟩
    · rw [hRaises.unique hRaises']
      exact hLog
    · exact absurd hRaises (hNone fault)
  · intro hNone
    rcases h.raises_or_not hLookup with ⟨fault, hRaises, -⟩ | ⟨-, hLog⟩
    · exact absurd hRaises (hNone fault)
    · exact hLog
  · intro readings hReadings
    obtain ⟨hHeld, hUsage⟩ := h.held_of_readable hReadings
    simp only [step, columns, look, hHeld, hUsage]
  · intro fault hError
    obtain ⟨hHeld, hUsage⟩ := h.held_of_unreadable hError
    simp only [step, hHeld, hUsage]
    exact ⟨facts_use _ _ _, fun other => get?_use_empty _ _ other⟩

end Session

end QueryPatch
