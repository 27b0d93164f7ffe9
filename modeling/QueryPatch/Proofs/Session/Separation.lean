import QueryPatch.Proofs.Session.History

/-! # The two halves of a session

What is known about columns and what is known about tables are kept apart. If all operations on one
half are deleted from a session, the operations on the other half show what they showed before,
whichever of them fail. The clock and the connections are common to both halves.
-/
set_option autoImplicit false

namespace QueryPatch

inductive Half
  | columns
  | tables
  deriving DecidableEq

def Half.opposite : Half → Half
  | columns => tables
  | tables => columns

variable {τ ν α β : Type}

namespace Operation

/-- The half that an operation is on. To set the clock or to change a connection is on neither. -/
def half? : Operation τ ν α → Option Half
  | columns _ | columnsTwice .. | warm _ | seed _ | forgetColumns | patch .. | validate _ =>
    some .columns
  | setSize .. | isSmall _ | putRange .. | getRange _ | forgetTables => some .tables
  | setClock _ | changeConnection .. => none

def isOn (half : Half) (operation : Operation τ ν α) : Bool := operation.half? = some half

theorem isOn_iff {half : Half} {operation : Operation τ ν α} :
    operation.isOn half = true ↔ operation.half? = some half := by
  rw [isOn, decide_eq_true_iff]

theorem not_isOn_opposite {half : Half} {operation : Operation τ ν α}
    (h : operation.isOn half = true) : operation.isOn half.opposite = false := by
  rw [isOn_iff] at h
  rw [isOn, h]
  cases half <;> rfl

end Operation

/-- The operations that are left when all operations on one half are deleted. -/
def deleting (half : Half) (operations : List (Operation τ ν α)) : List (Operation τ ν α) :=
  operations.filter fun operation => !operation.isOn half

namespace Session

/-- The same is known about columns and connections. -/
structure SameColumns (session other : Session τ ν) : Prop where
  sketchType_eq : session.facts.sketchType = other.facts.sketchType
  held_eq : session.facts.held = other.facts.held
  connections_eq : session.connections = other.connections

/-- The same is known about tables, at the same time. -/
structure SameTables (session other : Session τ ν) : Prop where
  life_eq : session.facts.life = other.facts.life
  sizes_eq : session.facts.sizes = other.facts.sizes
  window_eq : session.facts.window = other.facts.window
  clock_eq : session.clock = other.clock

theorem SameColumns.refl (session : Session τ ν) : session.SameColumns session := ⟨rfl, rfl, rfl⟩

theorem SameTables.refl (session : Session τ ν) : session.SameTables session :=
  ⟨rfl, rfl, rfl, rfl⟩

theorem SameTables.trans {first second third : Session τ ν} (h : first.SameTables second)
    (h' : second.SameTables third) : first.SameTables third where
  life_eq := h.life_eq.trans h'.life_eq
  sizes_eq := h.sizes_eq.trans h'.sizes_eq
  window_eq := h.window_eq.trans h'.window_eq
  clock_eq := h.clock_eq.trans h'.clock_eq

namespace SameColumns

variable {session other : Session τ ν}

theorem hold (h : session.SameColumns other) (held : Option ColumnSet) :
    (session.hold held).SameColumns (other.hold held) :=
  ⟨h.sketchType_eq, rfl, h.connections_eq⟩

theorem use (h : session.SameColumns other) (name : Option Text) (usage : Usage) :
    (session.use name usage).SameColumns (other.use name usage) where
  sketchType_eq := by rw [facts_use, facts_use, h.sketchType_eq]
  held_eq := by rw [facts_use, facts_use, h.held_eq]
  connections_eq := by
    cases name with
    | none => exact h.connections_eq
    | some name =>
      simp only [Session.use, h.connections_eq]
      cases Keyed.get? other.connections name with
      | none => exact h.connections_eq
      | some entry => rfl

theorem look (h : session.SameColumns other) (name : Option Text) (lookup : Lookup) :
    (session.look name lookup).SameColumns (other.look name lookup) :=
  (h.hold lookup.held).use name lookup.usage

theorem connection?_eq (h : session.SameColumns other) (name : Option Text) :
    session.connection? name = other.connection? name := by
  rw [connection?, connection?, h.connections_eq]

theorem lookup_eq (h : session.SameColumns other) (name : Option Text) :
    (session.columns name).2 = (other.columns name).2 := by
  rw [Session.columns, Session.columns, h.sketchType_eq, h.held_eq, h.connection?_eq]

theorem columns (h : session.SameColumns other) (name : Option Text) :
    (session.columns name).1.SameColumns (other.columns name).1 := by
  change (session.look name (session.columns name).2).SameColumns
    (other.look name (other.columns name).2)
  rw [h.lookup_eq]
  exact h.look name _

end SameColumns

theorem sameTables_use (session : Session τ ν) (name : Option Text) (usage : Usage) :
    (session.use name usage).SameTables session := by
  unfold use
  split
  · exact .refl session
  · split
    · exact .refl session
    · exact ⟨rfl, rfl, rfl, rfl⟩

theorem sameTables_hold (session : Session τ ν) (held : Option ColumnSet) :
    (session.hold held).SameTables session := ⟨rfl, rfl, rfl, rfl⟩

theorem sameTables_look (session : Session τ ν) (name : Option Text) (lookup : Lookup) :
    (session.look name lookup).SameTables session :=
  (sameTables_use ..).trans (sameTables_hold session lookup.held)

end Session

variable [LE τ] [DecidableLE τ] [Add τ] {patcher : Patcher}

namespace Session

section step

variable {session other : Session τ ν} {operation : Operation τ ν α}

theorem sameColumns_step_tables (patcher : Patcher) (session : Session τ ν)
    (h : operation.half? = some .tables) :
    (session.step patcher operation).1.SameColumns session := by
  cases operation with
  | setSize table count => cases count <;> exact ⟨rfl, rfl, rfl⟩
  | isSmall | putRange | getRange | forgetTables => exact ⟨rfl, rfl, rfl⟩
  | columns | columnsTwice | warm | seed | forgetColumns | patch | validate => cases h
  | setClock | changeConnection => cases h

theorem sameTables_step_columns (patcher : Patcher) (session : Session τ ν)
    (h : operation.half? = some .columns) :
    (session.step patcher operation).1.SameTables session := by
  cases operation with
  | columns name => exact sameTables_look session name _
  | columnsTwice first second => exact (sameTables_look ..).trans (sameTables_look session first _)
  | warm name => exact sameTables_look session name _
  | seed seed =>
    rw [step]
    split
    · exact sameTables_hold session _
    · exact .refl session
  | forgetColumns => exact sameTables_hold session none
  | patch given name => exact (sameTables_use ..).trans (sameTables_hold session _)
  | validate => exact .refl session
  | setSize | isSmall | putRange | getRange | forgetTables => cases h
  | setClock | changeConnection => cases h

theorem SameColumns.step (patcher : Patcher) (h : session.SameColumns other)
    (hHalf : operation.half? ≠ some .tables) :
    (session.step patcher operation).1.SameColumns (other.step patcher operation).1 ∧
      (session.step patcher operation).2 = (other.step patcher operation).2 := by
  cases operation with
  | columns name =>
    refine ⟨h.columns name, ?_⟩
    simp only [Session.step, h.lookup_eq name]
  | columnsTwice first second =>
    have hFirst := h.columns first
    refine ⟨hFirst.columns second, ?_⟩
    simp only [Session.step, h.lookup_eq first, hFirst.lookup_eq second]
  | warm name =>
    simp only [Session.step, h.sketchType_eq, h.connection?_eq]
    exact ⟨h.look name _, trivial⟩
  | seed seed =>
    simp only [Session.step]
    cases seed.columns? with
    | ok columns => exact ⟨h.hold _, rfl⟩
    | error fault => exact ⟨h, rfl⟩
  | forgetColumns => exact ⟨h.hold none, rfl⟩
  | patch given name =>
    simp only [Session.step, h.sketchType_eq, h.held_eq, h.connection?_eq]
    exact ⟨(h.hold _).use name _, trivial⟩
  | validate text => exact ⟨h, rfl⟩
  | setClock now => exact ⟨⟨h.sketchType_eq, h.held_eq, h.connections_eq⟩, rfl⟩
  | changeConnection name change =>
    simp only [Session.step, h.connections_eq]
    cases Keyed.get? other.connections name with
    | none => exact ⟨h, rfl⟩
    | some entry => exact ⟨⟨h.sketchType_eq, h.held_eq, rfl⟩, rfl⟩
  | setSize | isSmall | putRange | getRange | forgetTables => exact absurd rfl hHalf

theorem SameTables.step (patcher : Patcher) (h : session.SameTables other)
    (hHalf : operation.half? ≠ some .columns) :
    (session.step patcher operation).1.SameTables (other.step patcher operation).1 ∧
      (operation.half? = some .tables →
        (session.step patcher operation).2 = (other.step patcher operation).2) := by
  cases operation with
  | setSize table count =>
    cases count with
    | none => exact ⟨h, fun _ => rfl⟩
    | some count =>
      simp only [Session.step, h.sizes_eq]
      exact ⟨⟨h.life_eq, rfl, h.window_eq, h.clock_eq⟩, fun _ => trivial⟩
  | isSmall table =>
    simp only [Session.step, h.sizes_eq]
    exact ⟨h, fun _ => trivial⟩
  | putRange key low high =>
    simp only [Session.step, h.life_eq, h.clock_eq, h.window_eq]
    exact ⟨⟨rfl, h.sizes_eq, rfl, rfl⟩, fun _ => trivial⟩
  | getRange key =>
    simp only [Session.step, h.clock_eq, h.window_eq]
    exact ⟨⟨h.life_eq, h.sizes_eq, rfl, rfl⟩, fun _ => trivial⟩
  | forgetTables => exact ⟨⟨h.life_eq, rfl, rfl, h.clock_eq⟩, fun _ => rfl⟩
  | setClock now =>
    exact ⟨⟨h.life_eq, h.sizes_eq, h.window_eq, rfl⟩, fun hHalf => by cases hHalf⟩
  | changeConnection name change =>
    refine ⟨?_, fun hHalf => by cases hHalf⟩
    simp only [Session.step]
    -- the two sessions may know different connections, but no connection is a fact about tables
    cases Keyed.get? session.connections name <;> cases Keyed.get? other.connections name <;>
      exact ⟨h.life_eq, h.sizes_eq, h.window_eq, h.clock_eq⟩
  | columns | columnsTwice | warm | seed | forgetColumns | patch | validate =>
    exact absurd rfl hHalf

end step

/-- The moments of operations on one half. -/
def momentsOn (half : Half) (patcher : Patcher) (session : Session τ ν)
    (operations : List (Operation τ ν α)) : List (Moment τ ν α) :=
  (session.moments patcher operations).filter (·.operation.isOn half)

end Session

/-- Sessions that are alike as far as one half goes: operations on the opposite half do not part
them, all others lead from like sessions to like sessions, and what an operation on the half shows
can be told from either. -/
structure Unwinds (patcher : Patcher) (half : Half) (sight : Moment τ ν α → β)
    (alike : Session τ ν → Session τ ν → Prop) : Prop where
  skip : ∀ {session other : Session τ ν} {operation : Operation τ ν α},
    operation.isOn half.opposite = true → alike session other →
      alike (session.step patcher operation).1 other
  step : ∀ {session other : Session τ ν} {operation : Operation τ ν α},
    operation.isOn half.opposite = false → alike session other →
      alike (session.step patcher operation).1 (other.step patcher operation).1
  shows : ∀ {session other : Session τ ν} {operation : Operation τ ν α},
    operation.isOn half = true → alike session other →
      sight ⟨session, operation⟩ = sight ⟨other, operation⟩

theorem Unwinds.map_momentsOn {half : Half} {sight : Moment τ ν α → β}
    {alike : Session τ ν → Session τ ν → Prop} (h : Unwinds patcher half sight alike)
    {session other : Session τ ν} (hAlike : alike session other)
    (operations : List (Operation τ ν α)) :
    (session.momentsOn half patcher operations).map sight =
      (other.momentsOn half patcher (deleting half.opposite operations)).map sight := by
  -- the second session stays behind whenever an operation is deleted
  induction operations generalizing session other with
  | nil => rfl
  | cons operation rest ih =>
    rw [Session.momentsOn, Session.moments, List.filter_cons]
    cases hOpposite : operation.isOn half.opposite with
    | true =>
      have hNotOn : operation.isOn half = false := by
        cases hOn : operation.isOn half with
        | false => rfl
        | true => rw [Operation.not_isOn_opposite hOn] at hOpposite; cases hOpposite
      have hDeleted : deleting half.opposite (operation :: rest) = deleting half.opposite rest :=
        List.filter_cons_of_neg (by rw [hOpposite]; exact Bool.false_ne_true)
      rw [hDeleted, hNotOn, if_neg Bool.false_ne_true]
      exact ih (h.skip hOpposite hAlike)
    | false =>
      have hKept : deleting half.opposite (operation :: rest) =
          operation :: deleting half.opposite rest :=
        List.filter_cons_of_pos (by rw [hOpposite]; rfl)
      have hRest := ih (h.step hOpposite hAlike)
      rw [hKept, Session.momentsOn, Session.moments, List.filter_cons]
      cases hOn : operation.isOn half with
      | false =>
        rw [if_neg Bool.false_ne_true, if_neg Bool.false_ne_true]
        exact hRest
      | true =>
        rw [if_pos rfl, if_pos rfl, List.map_cons, List.map_cons, h.shows hOn hAlike]
        exact congrArg _ hRest

namespace Moment

/-- What an operation on the columns shows: its report, whether columns are held after it, and what
each connection has been used for. -/
def columnsSight (patcher : Patcher) (moment : Moment τ ν α) :
    Operation τ ν α × Report ν α × Bool × (Text → Option Usage) :=
  (moment.operation, moment.report patcher, (moment.after patcher).isWarm,
    (moment.after patcher).usage?)

/-- What an operation on the tables shows. -/
def tablesSight (patcher : Patcher) (moment : Moment τ ν α) : Operation τ ν α × Report ν α :=
  (moment.operation, moment.report patcher)

end Moment

theorem unwinds_columns (patcher : Patcher) :
    Unwinds (α := α) patcher .columns (Moment.columnsSight patcher)
      (Session.SameColumns : Session τ ν → Session τ ν → Prop) where
  skip {session other operation} hOn hAlike := by
    have hStep := session.sameColumns_step_tables patcher (Operation.isOn_iff.mp hOn)
    exact ⟨hStep.sketchType_eq.trans hAlike.sketchType_eq, hStep.held_eq.trans hAlike.held_eq,
      hStep.connections_eq.trans hAlike.connections_eq⟩
  step hOn hAlike := (hAlike.step patcher fun hHalf => by
    rw [Half.opposite, Operation.isOn_iff.mpr hHalf] at hOn
    cases hOn).1
  shows {session other operation} hOn hAlike := by
    have hNot : operation.half? ≠ some .tables := by
      rw [Operation.isOn_iff.mp hOn]
      nofun
    obtain ⟨hAfter, hReport⟩ := hAlike.step patcher hNot
    have hUsage : (session.step patcher operation).1.usage? =
        (other.step patcher operation).1.usage? := by
      funext name
      rw [Session.usage?, Session.usage?, hAfter.connections_eq]
    simp only [Moment.columnsSight, Moment.report, Moment.after, Session.isWarm, hReport,
      hAfter.held_eq, hUsage]

theorem unwinds_tables (patcher : Patcher) :
    Unwinds (α := α) patcher .tables (Moment.tablesSight patcher)
      (Session.SameTables : Session τ ν → Session τ ν → Prop) where
  skip {session other operation} hOn hAlike :=
    (session.sameTables_step_columns patcher (Operation.isOn_iff.mp hOn)).trans hAlike
  step hOn hAlike := (hAlike.step patcher fun hHalf => by
    rw [Half.opposite, Operation.isOn_iff.mpr hHalf] at hOn
    cases hOn).1
  shows {session other operation} hOn hAlike := by
    have hHalf := Operation.isOn_iff.mp hOn
    have hNot : operation.half? ≠ some .columns := by
      rw [hHalf]
      nofun
    have hReport := (hAlike.step patcher hNot).2 hHalf
    simp only [Moment.tablesSight, Moment.report, hReport]

/-- In every session, whatever fails in it: without its operations on tables every operation on
columns gives the same report, leaves columns held or not as before, and leaves the same counts on
every connection; without its operations on columns every operation on tables gives the same
report. -/
theorem Session.map_momentsOn_deleting (patcher : Patcher) (session : Session τ ν)
    (operations : List (Operation τ ν α)) :
    (session.momentsOn .columns patcher (deleting .tables operations)).map
          (Moment.columnsSight patcher) =
        (session.momentsOn .columns patcher operations).map (Moment.columnsSight patcher) ∧
      (session.momentsOn .tables patcher (deleting .columns operations)).map
          (Moment.tablesSight patcher) =
        (session.momentsOn .tables patcher operations).map (Moment.tablesSight patcher) := by
  constructor
  · exact ((unwinds_columns patcher).map_momentsOn (.refl session) operations).symm
  · exact ((unwinds_tables patcher).map_momentsOn (.refl session) operations).symm

end QueryPatch
