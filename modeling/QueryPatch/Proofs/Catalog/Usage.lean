import QueryPatch.Proofs.Catalog.Population

/-! # What asking the catalog costs

Whether the catalog answers is decided by its steps and its rows alone. Each cursor is closed once,
and each failed question is rolled back once if the connection knows how.
-/
set_option autoImplicit false

namespace QueryPatch

namespace Connection

/-- No step fails, and every row begins with a text. -/
def succeeds (connection : Connection) : Bool :=
  connection.cursorFailure.isNone && connection.executeFailure.isNone &&
    connection.fetchFailure.isNone && connection.closeFailure.isNone &&
      connection.rows.all fun row => match row with
        | .column _ => true
        | .empty | .notText => false

/-- Asking the catalog ends with a rollback. -/
def rollsBack (connection : Connection) : Bool := !connection.succeeds && connection.canRollBack

/-- What is done on the connection when the catalog is asked once. -/
def spent (connection : Connection) (sketchType : Text) : Usage where
  queries := if connection.cursorFailure.isNone then [[sketchType]] else []
  cursorsClosed := if connection.cursorFailure.isNone then 1 else 0
  rollbacks := if connection.rollsBack then 1 else 0

/-- The fault of a rollback, if there is one and it fails. -/
def rollbackFault? (connection : Connection) : Option Fault :=
  if connection.canRollBack then connection.rollbackFailure.map .connectionFailed else none

theorem all_isText_iff {rows : List Row} :
    (rows.all fun row => match row with
      | .column _ => true
      | .empty | .notText => false) = true ↔ ∃ names : List Text, rows = names.map Row.column := by
  induction rows with
  | nil => simp
  | cons row rest ih =>
    rw [List.all_cons, Bool.and_eq_true, ih]
    constructor
    · rintro ⟨hRow, names, rfl⟩
      cases row with
      | column name => exact ⟨name :: names, rfl⟩
      | empty | notText => cases hRow
    · rintro ⟨names, hRows⟩
      cases names with
      | nil => cases hRows
      | cons name names =>
        obtain ⟨rfl, rfl⟩ := List.cons.inj hRows
        exact ⟨rfl, names, rfl⟩

theorem succeeds_eq_true_iff {connection : Connection} :
    connection.succeeds = true ↔ ∃ names, connection.Answers names := by
  simp only [succeeds, Bool.and_eq_true, Option.isNone_iff_eq_none, all_isText_iff]
  constructor
  · rintro ⟨⟨⟨⟨hCursor, hExecute⟩, hFetch⟩, hClose⟩, names, hRows⟩
    exact ⟨names, hCursor, hExecute, hFetch, hClose, hRows⟩
  · rintro ⟨names, h⟩
    exact ⟨⟨⟨⟨h.cursor, h.execute⟩, h.fetch⟩, h.close⟩, names, h.rows⟩

theorem usage_read (connection : Connection) (sketchType : Text) :
    (connection.read sketchType).2 =
      { queries := if connection.cursorFailure.isNone then [[sketchType]] else []
        cursorsClosed := if connection.cursorFailure.isNone then 1 else 0 } := by
  rw [read]
  cases connection.cursorFailure <;> rfl

end Connection

namespace Lookup

theorem usage_populate (sketchType : Text) (connection : Option Connection) :
    (populate sketchType connection).usage =
      (connection.map (·.spent sketchType)).getD {} := by
  have h := population_populate sketchType connection
  generalize populate sketchType connection = lookup at h
  cases h with
  | @answered connection names hAnswers =>
    have hSucceeds := Connection.succeeds_eq_true_iff.mpr ⟨names, hAnswers⟩
    simp [Connection.spent, Connection.rollsBack, hAnswers.cursor, hSucceeds]
  | @failed connection fault hError hNone =>
    have hFails : connection.succeeds = false := by
      rw [← Bool.not_eq_true, Connection.succeeds_eq_true_iff]
      exact not_exists.mpr hNone
    have hSpent : connection.spent sketchType =
        (connection.read sketchType).2 ++ connection.rollBack.2 := by
      rw [Connection.usage_read, Connection.spent, Connection.rollsBack, hFails,
        Connection.rollBack]
      cases connection.cursorFailure <;> cases connection.canRollBack <;> rfl
    exact hSpent.symm
  | absent => rfl

end Lookup

/-- The records of what went wrong. -/
def Log.errors (log : Log) : Log := log.filter (·.level = .error)

/-- How a question to the catalog ends: with the set of its names and no complaint, or with no
columns and a complaint about the reading, to which one about the rollback may come. -/
structure Lookup.Settled (connection : Option Connection) (lookup : Lookup) : Prop where
  of_names : ∀ names, CatalogNames connection names →
    lookup.columns.OfNames names ∧ lookup.held = some lookup.columns ∧ lookup.log.errors = []
  of_failure : (∀ names, ¬ CatalogNames connection names) →
    lookup.columns = [] ∧ lookup.held = none ∧ ∃ fault, lookup.log.errors =
      .failure .facts "Error reading hyperloglog columns from the catalog" fault ::
        (connection.bind Connection.rollbackFault?).toList.map
          (.failure .facts "Error rolling back after the catalog query failed")

theorem Lookup.Settled.isSome_held_iff {connection : Option Connection} {lookup : Lookup}
    (h : lookup.Settled connection) :
    lookup.held.isSome = true ↔ ∃ names, CatalogNames connection names := by
  by_cases hNames : ∃ names, CatalogNames connection names
  · obtain ⟨names, hRead⟩ := hNames
    rw [(h.of_names names hRead).2.1]
    exact ⟨fun _ => ⟨names, hRead⟩, fun _ => rfl⟩
  · rw [(h.of_failure (not_exists.mp hNames)).2.1]
    exact ⟨nofun, fun hRead => absurd hRead hNames⟩

theorem Lookup.errors_failureLog (fault : Fault) (rollback : Option Fault) :
    Log.errors (.catalogQuery :: failureLog fault rollback) =
      .failure .facts "Error reading hyperloglog columns from the catalog" fault ::
        rollback.toList.map
          (.failure .facts "Error rolling back after the catalog query failed") := by
  cases rollback <;> rfl

theorem Lookup.settled_populate (sketchType : Text) (connection : Option Connection) :
    (populate sketchType connection).Settled connection := by
  have h := population_populate sketchType connection
  generalize populate sketchType connection = lookup at h
  cases h with
  | @answered connection names hAnswers =>
    constructor
    · intro others hOthers
      obtain rfl := CatalogNames.unique ⟨connection, rfl, hAnswers⟩ hOthers
      exact ⟨ColumnSet.ofNames_ofList names, rfl, rfl⟩
    · exact fun hNone => absurd ⟨connection, rfl, hAnswers⟩ (hNone names)
  | @failed connection fault hError hNone =>
    constructor
    · rintro names ⟨known, hKnown, hAnswers⟩
      obtain rfl := Option.some.inj hKnown
      exact absurd hAnswers (hNone names)
    · intro _
      refine ⟨rfl, rfl, fault, ?_⟩
      have hRollback : connection.rollBack.1 = connection.rollbackFault? := by
        rw [Connection.rollBack, Connection.rollbackFault?]
        split <;> rfl
      rw [errors_failureLog, hRollback]
      rfl
  | absent =>
    constructor
    · rintro names ⟨known, hKnown, -⟩
      cases hKnown
    · exact fun _ => ⟨rfl, rfl, .noConnection, rfl⟩

end QueryPatch
