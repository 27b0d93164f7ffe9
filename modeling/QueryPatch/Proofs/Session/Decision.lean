import QueryPatch.Proofs.Catalog.Population
import QueryPatch.Proofs.Patch.Outcome
import QueryPatch.Proofs.Session.Use

/-! # What decides the columns held

A seed, a successful reading of the catalog, a failed warming and forgetting decide what is held
afterwards. No other operation changes it, a failed reading for a query included.
-/
set_option autoImplicit false

namespace QueryPatch

/-- The names that a seed lists. A text lists its characters. -/
inductive Seed.Lists : Seed → List Text → Prop
  | text (given : Text) : Lists (.text given) (given.map fun c => [c])
  | items (names : List Text) : Lists (.items (names.map some)) names

theorem Seed.columns?_eq_ok_iff {seed : Seed} {columns : ColumnSet} :
    seed.columns? = .ok columns ↔
      ∃ names, seed.Lists names ∧ columns = .ofList (names.map Text.lowercase) := by
  have hKeys {items : List (Option Text)} {keys : List Text} :
      items.mapM key? = .ok keys ↔
        ∃ names : List Text, items = names.map some ∧ keys = names.map Text.lowercase :=
    mapM_eq_ok_iff fun item key => by cases item <;> simp [key?, eq_comm]
  cases seed with
  | text given =>
    constructor
    · rintro ⟨⟩
      exact ⟨_, .text given, by rw [List.map_map]; rfl⟩
    · rintro ⟨_, ⟨⟩, rfl⟩
      rw [List.map_map]
      rfl
  | items given =>
    rw [columns?]
    constructor
    · intro h
      cases hItems : given.mapM key? with
      | error fault =>
        rw [hItems] at h
        cases h
      | ok keys =>
        obtain ⟨names, rfl, rfl⟩ := hKeys.mp hItems
        rw [hItems] at h
        cases h
        exact ⟨names, .items names, rfl⟩
    · rintro ⟨names, ⟨⟩, rfl⟩
      rw [hKeys.mpr ⟨names, rfl, rfl⟩]
      rfl
  | other =>
    constructor
    · rintro ⟨⟩
    · rintro ⟨_, ⟨⟩, -⟩

/-- Held is the set of these names; with no names given, nothing is held. -/
inductive Holds : Option ColumnSet → Option (List Text) → Prop
  | cold : Holds none none
  | warm {columns : ColumnSet} {names : List Text} :
      columns.OfNames names → Holds (some columns) (some names)

namespace Lookup.Looked

variable {held : Option ColumnSet} {connection : Option Connection} {lookup : Lookup}
  {names : List Text}

theorem holds (h : Looked none connection lookup) (hNames : CatalogNames connection names) :
    Holds lookup.held (some names) := by
  cases h with
  | held hHeld => cases hHeld
  | read _ hRead hColumns hHeld =>
    obtain rfl := hNames.unique hRead
    rw [hHeld]
    exact .warm hColumns
  | failed _ hNone => exact absurd hNames (hNone names)

/-- Unless the catalog was read, the same is held as before. -/
theorem held_eq_self (h : Looked held connection lookup)
    (hNone : held = none → ∀ names, ¬ CatalogNames connection names) : lookup.held = held := by
  cases h with
  | held => rfl
  | read hCold hRead => exact absurd hRead (hNone hCold _)
  | failed hCold _ _ hHeld => rw [hHeld, hCold]

end Lookup.Looked

namespace Session

variable {τ ν α : Type}

/-- What a request for the columns answers. -/
inductive Gets (session : Session τ ν) (name : Option Text) : ColumnSet → Prop
  | held {columns : ColumnSet} : session.facts.held = some columns → Gets session name columns
  | read {columns : ColumnSet} {names : List Text} :
      session.facts.held = none → CatalogNames (session.connection? name) names →
      columns.OfNames names → Gets session name columns
  | failed :
      session.facts.held = none → (∀ names, ¬ CatalogNames (session.connection? name) names) →
      Gets session name []

/-- The operation decides what is held after it: the set of these names, or nothing. -/
inductive Decides (patcher : Patcher) (session : Session τ ν) :
    Operation τ ν α → Option (List Text) → Prop
  | seed {seed : Seed} {names : List Text} :
      seed.Lists names → Decides patcher session (.seed seed) (some names)
  | forget : Decides patcher session .forgetColumns none
  | warm {name : Option Text} {names : List Text} :
      CatalogNames (session.connection? name) names →
      Decides patcher session (.warm name) (some names)
  | failedWarm {name : Option Text} :
      (∀ names, ¬ CatalogNames (session.connection? name) names) →
      Decides patcher session (.warm name) none
  | get {name : Option Text} {names : List Text} :
      session.facts.held = none → CatalogNames (session.connection? name) names →
      Decides patcher session (.columns name) (some names)
  | firstGet {first second : Option Text} {names : List Text} :
      session.facts.held = none → CatalogNames (session.connection? first) names →
      Decides patcher session (.columnsTwice first second) (some names)
  | secondGet {first second : Option Text} {names : List Text} :
      session.facts.held = none →
      (∀ others, ¬ CatalogNames (session.connection? first) others) →
      CatalogNames (session.connection? second) names →
      Decides patcher session (.columnsTwice first second) (some names)
  | patch {given : Source α} {name : Option Text} {readings : List Reading} {names : List Text} :
      session.facts.held = none →
      given.readings? patcher.settings.separator = .ok readings →
      CatalogNames (session.connection? name) names →
      Decides patcher session (.patch given name) (some names)

section lookup

variable {session : Session τ ν} {name : Option Text}

@[simp] theorem held_look (session : Session τ ν) (name : Option Text) (lookup : Lookup) :
    (session.look name lookup).facts.held = lookup.held := by
  rw [look, facts_use]
  rfl

@[simp] theorem connection?_look (session : Session τ ν) (name : Option Text) (lookup : Lookup)
    (other : Option Text) :
    (session.look name lookup).connection? other = session.connection? other := by
  cases other with
  | none => rfl
  | some other =>
    simp only [look, connection?, Option.bind_eq_bind, Option.bind_some, get?_use]
    cases h : Keyed.get? session.connections other <;> simp [hold, h]

theorem looked_columns (session : Session τ ν) (name : Option Text) :
    Lookup.Looked session.facts.held (session.connection? name) (session.columns name).2 :=
  Lookup.looked_of ..

theorem held_columns (session : Session τ ν) (name : Option Text) :
    (session.columns name).1.facts.held = (session.columns name).2.held := by
  rw [columns, held_look]

theorem connection?_columns (session : Session τ ν) (name other : Option Text) :
    (session.columns name).1.connection? other = session.connection? other := by
  rw [columns, connection?_look]

theorem gets_columns (session : Session τ ν) (name : Option Text) :
    session.Gets name (session.columns name).2.columns := by
  have h := session.looked_columns name
  generalize (session.columns name).2 = lookup at h
  cases h with
  | held hHeld => exact .held hHeld
  | read hCold hNames hColumns => exact .read hCold hNames hColumns
  | failed hCold hNone hColumns =>
    rw [hColumns]
    exact .failed hCold hNone

theorem holds_columns {name : Option Text} {names : List Text} (hCold : session.facts.held = none)
    (hNames : CatalogNames (session.connection? name) names) :
    Holds (session.columns name).1.facts.held (some names) := by
  have h := session.looked_columns name
  rw [hCold] at h
  rw [held_columns]
  exact h.holds hNames

theorem held_columns_eq_self {name : Option Text}
    (hNone : session.facts.held = none → ∀ names, ¬ CatalogNames (session.connection? name) names) :
    (session.columns name).1.facts.held = session.facts.held := by
  rw [held_columns]
  exact (session.looked_columns name).held_eq_self hNone

end lookup

section step

variable [LE τ] [DecidableLE τ] [Add τ] {patcher : Patcher} {session : Session τ ν}
  {operation : Operation τ ν α} {decision : Option (List Text)}

theorem held_step_patch (patcher : Patcher) (session : Session τ ν) (given : Source α)
    (name : Option Text) :
    (session.step patcher (.patch given name)).1.facts.held =
      (patcher.patch session.facts.sketchType session.facts.held (session.connection? name)
        given).held := by
  simp only [step, facts_use]
  rfl

theorem holds_step (h : session.Decides patcher operation decision) :
    Holds (session.step patcher operation).1.facts.held decision := by
  cases h with
  | @seed seed names hLists =>
    have hColumns := Seed.columns?_eq_ok_iff.mpr ⟨names, hLists, rfl⟩
    simp only [step, hColumns]
    exact .warm (ColumnSet.ofNames_ofList names)
  | forget => exact .cold
  | @warm name names hNames =>
    have hLooked := Lookup.looked_of session.facts.sketchType none (session.connection? name)
    rw [step, held_look]
    exact hLooked.holds hNames
  | @failedWarm name hNone =>
    have hLooked := Lookup.looked_of session.facts.sketchType none (session.connection? name)
    have hHeld := hLooked.held_eq_self fun _ => hNone
    rw [step, held_look]
    rw [Lookup.of] at hHeld
    rw [hHeld]
    exact .cold
  | get hCold hNames => exact holds_columns hCold hNames
  | @firstGet first second names hCold hNames =>
    have hFirst := holds_columns hCold hNames
    change Holds ((session.columns first).1.columns second).1.facts.held (some names)
    rw [held_columns_eq_self]
    · exact hFirst
    · intro hNone
      rw [hNone] at hFirst
      cases hFirst
  | @secondGet first second names hCold hNone hNames =>
    have hFirst := held_columns_eq_self fun _ => hNone
    apply holds_columns (hFirst.trans hCold)
    rwa [connection?_columns]
  | @patch given name readings names hCold hReadings hNames =>
    have hOutcome := patcher.outcome_patch session.facts.sketchType session.facts.held
      (session.connection? name) given
    rw [held_step_patch, (hOutcome.held_of_readable hReadings).1, hCold]
    exact (Lookup.looked_of _ none _).holds hNames

theorem held_step_of_not_decides (h : ∀ decision, ¬ session.Decides patcher operation decision) :
    (session.step patcher operation).1.facts.held = session.facts.held := by
  cases operation with
  | columns name => exact held_columns_eq_self fun hCold names hNames => h _ (.get hCold hNames)
  | columnsTwice first second =>
    have hFirst := held_columns_eq_self fun hCold names hNames => h _ (.firstGet hCold hNames)
    change ((session.columns first).1.columns second).1.facts.held = _
    rw [held_columns_eq_self, hFirst]
    intro hCold names hNames
    rw [hFirst] at hCold
    rw [connection?_columns] at hNames
    exact h _ (.secondGet hCold (fun others hOthers => h _ (.firstGet hCold hOthers)) hNames)
  | warm name =>
    refine absurd (.failedWarm fun names hNames => ?_) (h none)
    exact h _ (.warm hNames)
  | seed seed =>
    rw [step]
    cases hColumns : seed.columns? with
    | error fault => rfl
    | ok columns =>
      obtain ⟨names, hLists, -⟩ := Seed.columns?_eq_ok_iff.mp hColumns
      exact absurd (.seed hLists) (h _)
  | forgetColumns => exact absurd .forget (h none)
  | patch given name =>
    have hOutcome := patcher.outcome_patch session.facts.sketchType session.facts.held
      (session.connection? name) given
    rw [held_step_patch]
    cases hReadings : given.readings? patcher.settings.separator with
    | error fault => exact (hOutcome.held_of_unreadable hReadings).1
    | ok readings =>
      rw [(hOutcome.held_of_readable hReadings).1]
      exact (Lookup.looked_of ..).held_eq_self fun hCold names hNames =>
        h _ (.patch hCold hReadings hNames)
  | setSize table count => cases count <;> rfl
  | changeConnection name change =>
    rw [step]
    split <;> rfl
  | validate | isSmall | putRange | getRange | forgetTables | setClock => rfl

end step

end Session

end QueryPatch
