import QueryPatch.Facts.Columns

/-! # Asking the catalog

What is held after the catalog was asked, for every way in which the steps of the reading can fail.
A reading that fails at any step answers with no columns and holds nothing.
-/
set_option autoImplicit false

namespace QueryPatch

/-- Every step of a catalog reading succeeds, and the rows hold these names. -/
structure Connection.Answers (connection : Connection) (names : List Text) : Prop where
  cursor : connection.cursorFailure = none
  execute : connection.executeFailure = none
  fetch : connection.fetchFailure = none
  close : connection.closeFailure = none
  rows : connection.rows = names.map Row.column

/-- The record of each question that is put to the catalog. -/
def Record.catalogQuery : Record := .debug .queries QueryPatch.catalogQuery

theorem Log.count_catalogQuery_eq_zero {log : Log}
    (h : ∀ record ∈ log, record.channel ≠ .queries) : log.count .catalogQuery = 0 :=
  List.count_eq_zero.mpr fun hMem => h _ hMem rfl

theorem Log.count_catalogQuery_singleton {record : Record} (h : record.channel ≠ .queries) :
    List.count .catalogQuery [record] = 0 := by
  apply count_catalogQuery_eq_zero
  intro other hMem
  rwa [List.mem_singleton.mp hMem]

theorem mapM_eq_ok_iff {α β γ ε : Type} {read : α → Except ε β} {item : γ → α} {value : γ → β}
    (hRead : ∀ given result, read given = .ok result ↔
      ∃ name, given = item name ∧ result = value name) {items : List α} {values : List β} :
    items.mapM read = .ok values ↔
      ∃ names : List γ, items = names.map item ∧ values = names.map value := by
  induction items generalizing values with
  | nil =>
    constructor
    · rintro ⟨⟩
      exact ⟨[], rfl, rfl⟩
    · rintro ⟨names, hItems, rfl⟩
      rw [List.map_eq_nil_iff.mp hItems.symm]
      rfl
  | cons first rest ih =>
    rw [List.mapM_cons]
    constructor
    · intro h
      cases hFirst : read first with
      | error fault =>
        rw [hFirst] at h
        cases h
      | ok result =>
        cases hRest : rest.mapM read with
        | error fault =>
          rw [hFirst, hRest] at h
          cases h
        | ok others =>
          obtain ⟨name, rfl, rfl⟩ := (hRead first result).mp hFirst
          obtain ⟨names, rfl, rfl⟩ := ih.mp hRest
          rw [hFirst, hRest] at h
          cases h
          exact ⟨name :: names, rfl, rfl⟩
    · rintro ⟨names, hItems, rfl⟩
      cases names with
      | nil => cases hItems
      | cons name names =>
        rw [List.map_cons, List.cons.injEq] at hItems
        obtain ⟨rfl, rfl⟩ := hItems
        rw [(hRead _ _).mpr ⟨name, rfl, rfl⟩, ih.mpr ⟨names, rfl, rfl⟩]
        rfl

namespace Connection

theorem columns?_eq_ok_iff {rows : List Row} {columns : List Text} :
    columns? rows = .ok columns ↔
      ∃ names : List Text, rows = names.map Row.column ∧ columns = names.map Text.lowercase :=
  mapM_eq_ok_iff fun row column => by
    cases row <;> simp [Row.column?, eq_comm]

theorem Answers.read_eq {connection : Connection} {names : List Text} (h : connection.Answers names)
    (sketchType : Text) :
    connection.read sketchType =
      (.ok (names.map Text.lowercase), { queries := [[sketchType]], cursorsClosed := 1 }) := by
  have hColumns := columns?_eq_ok_iff.mpr ⟨names, h.rows, rfl⟩
  simp [read, h.cursor, h.execute, h.fetch, h.close, hColumns]

theorem read_eq_ok_iff {connection : Connection} {sketchType : Text} {columns : List Text} :
    (connection.read sketchType).1 = .ok columns ↔
      ∃ names, connection.Answers names ∧ columns = names.map Text.lowercase := by
  constructor
  · intro h
    rw [read] at h
    split at h
    · cases h
    · rename_i hCursor
      dsimp only at h
      split at h
      · cases h
      · rename_i hSteps
        simp only [Option.orElse_eq_orElse, Option.orElse_eq_or, Option.or_eq_none_iff] at hSteps
        obtain ⟨hClose, hExecute, hFetch⟩ := hSteps
        obtain ⟨names, hRows, rfl⟩ := columns?_eq_ok_iff.mp h
        exact ⟨names, ⟨hCursor, hExecute, hFetch, hClose, hRows⟩, rfl⟩
  · rintro ⟨names, hAnswers, rfl⟩
    rw [hAnswers.read_eq]

end Connection

namespace Lookup

/-- Everything that asking the catalog can come to. -/
inductive Population (sketchType : Text) : Option Connection → Lookup → Prop
  | answered {connection : Connection} {names : List Text} :
      connection.Answers names →
      Population sketchType (some connection)
        { columns := .ofList (names.map Text.lowercase)
          held := some (.ofList (names.map Text.lowercase))
          usage := { queries := [[sketchType]], cursorsClosed := 1 }
          log := [.catalogQuery, .debug .facts ("Found " ++
            Text.ofNat (ColumnSet.ofList (names.map Text.lowercase)).length ++
              " hyperloglog columns")] }
  | failed {connection : Connection} {fault : Fault} :
      (connection.read sketchType).1 = .error fault → (∀ names, ¬ connection.Answers names) →
      Population sketchType (some connection)
        { columns := [], held := none
          usage := (connection.read sketchType).2 ++ connection.rollBack.2
          log := .catalogQuery :: failureLog fault connection.rollBack.1 }
  | absent :
      Population sketchType none
        { columns := [], held := none, log := .catalogQuery :: failureLog .noConnection none }

theorem population_populate (sketchType : Text) (connection : Option Connection) :
    Population sketchType connection (populate sketchType connection) := by
  cases connection with
  | none => exact .absent
  | some connection =>
    obtain ⟨⟨answer, usage⟩, hRead⟩ : ∃ result, connection.read sketchType = result := ⟨_, rfl⟩
    unfold populate
    dsimp only
    cases answer with
    | ok columns =>
      obtain ⟨names, hAnswers, rfl⟩ := Connection.read_eq_ok_iff.mp (congrArg Prod.fst hRead)
      rw [hAnswers.read_eq]
      exact .answered hAnswers
    | error fault =>
      have hFault : (connection.read sketchType).1 = .error fault := congrArg Prod.fst hRead
      have hNone : ∀ names, ¬ connection.Answers names := by
        intro names hAnswers
        rw [hAnswers.read_eq] at hFault
        cases hFault
      have h := Population.failed hFault hNone
      rw [hRead] at h ⊢
      exact h

theorem channel_of_mem_failureLog (fault : Fault) (rollback : Option Fault) :
    ∀ record ∈ failureLog fault rollback, record.channel = .facts := by
  cases rollback <;> simp [failureLog, Record.failure]

/-- Each time the catalog is asked, this is reported once, before anything can fail. -/
theorem count_log_populate (sketchType : Text) (connection : Option Connection) :
    (populate sketchType connection).log.count .catalogQuery = 1 := by
  have hFailure : ∀ fault rollback, (failureLog fault rollback).count .catalogQuery = 0 :=
    fun fault rollback => Log.count_catalogQuery_eq_zero fun record hMem => by
      rw [channel_of_mem_failureLog fault rollback record hMem]
      nofun
  have hPopulation := population_populate sketchType connection
  generalize populate sketchType connection = lookup at hPopulation
  cases hPopulation with
  | answered =>
    rw [List.count_cons_self, Log.count_catalogQuery_singleton]
    intro hChannel
    cases hChannel
  | failed | absent => rw [List.count_cons_self, hFailure]

end Lookup

/-- There is a connection, and reading the catalog on it gives these names. -/
def CatalogNames (connection : Option Connection) (names : List Text) : Prop :=
  ∃ known, connection = some known ∧ known.Answers names

theorem CatalogNames.unique {connection : Option Connection} {names others : List Text}
    (h : CatalogNames connection names) (h' : CatalogNames connection others) : names = others := by
  obtain ⟨known, rfl, hAnswers⟩ := h
  obtain ⟨_, ⟨⟩, hAnswers'⟩ := h'
  have hRows := hAnswers.rows.symm.trans hAnswers'.rows
  exact (List.map_inj_right fun _ _ hRow => Row.column.inj hRow).mp hRows

/-- The set of the names in lower case. -/
def ColumnSet.OfNames (columns : ColumnSet) (names : List Text) : Prop :=
  ∀ key, key ∈ columns ↔ ∃ name ∈ names, Text.lowercase name = key

theorem ColumnSet.ofNames_ofList (names : List Text) :
    (ofList (names.map Text.lowercase)).OfNames names := by
  intro key
  rw [ofList, List.mem_eraseDups, List.mem_map]

namespace Lookup

variable {sketchType : Text} {held : Option ColumnSet} {connection : Option Connection}
  {lookup : Lookup}

/-- Everything that asking for the columns can come to. -/
inductive Looked (held : Option ColumnSet) (connection : Option Connection) : Lookup → Prop
  | held {columns : ColumnSet} : held = some columns → Looked held connection { columns, held }
  | read {lookup : Lookup} {names : List Text} :
      held = none → CatalogNames connection names → lookup.columns.OfNames names →
      lookup.held = some lookup.columns → lookup.log.count .catalogQuery = 1 →
      Looked held connection lookup
  | failed {lookup : Lookup} :
      held = none → (∀ names, ¬ CatalogNames connection names) → lookup.columns = [] →
      lookup.held = none → lookup.log.count .catalogQuery = 1 → Looked held connection lookup

theorem looked_of (sketchType : Text) (held : Option ColumnSet) (connection : Option Connection) :
    Looked held connection (.of sketchType held connection) := by
  cases held with
  | some columns => exact .held rfl
  | none =>
    rw [Lookup.of]
    have hCount := count_log_populate sketchType connection
    have hPopulation := population_populate sketchType connection
    generalize populate sketchType connection = lookup at hCount hPopulation
    cases hPopulation with
    | answered hAnswers =>
      exact .read rfl ⟨_, rfl, hAnswers⟩ (ColumnSet.ofNames_ofList _) rfl hCount
    | failed hError hNone =>
      refine .failed rfl ?_ rfl rfl hCount
      rintro names ⟨known, hKnown, hAnswers⟩
      rw [Option.some.inj hKnown] at hNone
      exact hNone names hAnswers
    | absent =>
      refine .failed rfl ?_ rfl rfl hCount
      rintro names ⟨known, hKnown, -⟩
      cases hKnown

end Lookup

end QueryPatch
