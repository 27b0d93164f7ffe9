import QueryPatch.Fragment.Basic

/-! # The history of a fragment

A new fragment is classified and replaced any number of times, in any order, and some of the calls
fail. The first replacement by a text stays, the last classification stays, and neither of the two
kinds of calls looks at what the other one sets.
-/
set_option autoImplicit false

namespace QueryPatch

namespace Setting

/-- Whether the setting is for an attribute that lines have. -/
def isKnown : Setting → Bool
  | name _ _ | hasNext _ => true
  | unknown _ | reserved _ => false

def assign (attributes : Attributes) : Setting → Attributes
  | name field value => attributes.set value field
  | hasNext value => { attributes with hasNext := value }
  | unknown _ | reserved _ => attributes

variable {attributes : Attributes} {settings : List Setting}

theorem fst_applyAll (attributes : Attributes) (settings : List Setting) :
    (applyAll attributes settings).1 = (settings.takeWhile isKnown).foldl assign attributes := by
  induction settings generalizing attributes with
  | nil => rfl
  | cons setting rest ih =>
    cases setting with
    | name field value => exact ih (attributes.set value field)
    | hasNext value => exact ih { attributes with hasNext := value }
    | unknown | reserved => rfl

theorem exists_fault_applyAll_iff (attributes : Attributes) (settings : List Setting) :
    (∃ fault, (applyAll attributes settings).2 = some fault) ↔
      ∃ setting ∈ settings, setting.isKnown = false := by
  induction settings generalizing attributes with
  | nil => exact ⟨nofun, nofun⟩
  | cons setting rest ih =>
    simp only [List.mem_cons, exists_eq_or_imp]
    cases setting with
    | name field value =>
      exact (ih (attributes.set value field)).trans (or_iff_right nofun).symm
    | hasNext value =>
      exact (ih { attributes with hasNext := value }).trans (or_iff_right nofun).symm
    | unknown | reserved => exact ⟨fun _ => .inl rfl, fun _ => ⟨_, rfl⟩⟩

theorem get_foldl_assign {field : Field} (hNone : ∀ value, .name field value ∉ settings) :
    (settings.foldl assign attributes).get field = attributes.get field := by
  induction settings generalizing attributes with
  | nil => rfl
  | cons setting rest ih =>
    rw [List.foldl_cons, ih fun value hMem => hNone value (List.mem_cons_of_mem setting hMem)]
    cases setting with
    | name other value =>
      apply Attributes.get_set_of_ne
      rintro rfl
      exact hNone value List.mem_cons_self
    | hasNext | unknown | reserved => cases field <;> rfl

theorem hasNext_foldl_assign (hNone : ∀ value, .hasNext value ∉ settings) :
    (settings.foldl assign attributes).hasNext = attributes.hasNext := by
  induction settings generalizing attributes with
  | nil => rfl
  | cons setting rest ih =>
    rw [List.foldl_cons, ih fun value hMem => hNone value (List.mem_cons_of_mem setting hMem)]
    cases setting with
    | name field value => exact attributes.hasNext_set value field
    | hasNext value => exact absurd List.mem_cons_self (hNone value)
    | unknown | reserved => rfl

end Setting

/-- Each attribute has the value that it is given last, and none if it is not given any. -/
structure Attributes.GivenBy (attributes : Attributes) (settings : List Setting) : Prop where
  get_eq : ∀ field value before after, settings = before ++ .name field value :: after →
    (∀ other, .name field other ∉ after) → attributes.get field = value
  get_eq_none : ∀ field, (∀ value, .name field value ∉ settings) → attributes.get field = none
  hasNext_eq : ∀ value before after, settings = before ++ .hasNext value :: after →
    (∀ other, .hasNext other ∉ after) → attributes.hasNext = value
  hasNext_eq_false : (∀ value, .hasNext value ∉ settings) → attributes.hasNext = false

theorem Attributes.givenBy_foldl (settings : List Setting) :
    (settings.foldl Setting.assign {}).GivenBy settings where
  get_eq field value before after hSettings hLast := by
    rw [hSettings, List.foldl_append, List.foldl_cons, Setting.get_foldl_assign hLast]
    exact get_set_self _ value field
  get_eq_none field hNone := by
    rw [Setting.get_foldl_assign hNone]
    cases field <;> rfl
  hasNext_eq value before after hSettings hLast := by
    rw [hSettings, List.foldl_append, List.foldl_cons, Setting.hasNext_foldl_assign hLast]
    rfl
  hasNext_eq_false hNone := Setting.hasNext_foldl_assign hNone

namespace Fragment

inductive Call
  | classify (role : Role) (settings : List Setting)
  | replace (line : Option Text)
  deriving DecidableEq

/-- The fragment after the call, and why the call fails if it does. -/
def perform (fragment : Fragment) : Call → Fragment × Option Fault
  | .classify role settings => fragment.classify role settings
  | .replace line =>
    match fragment.replace line with
    | .ok changed => (changed, none)
    | .error fault => (fragment, some fault)

/-- The fragment after all calls, and for each call why it fails if it does. -/
def performAll : Fragment → List Call → Fragment × List (Option Fault)
  | fragment, [] => (fragment, [])
  | fragment, call :: rest =>
    let (changed, fault) := fragment.perform call
    let (final, faults) := changed.performAll rest
    (final, fault :: faults)

/-- The text that the call sets, if the line has none in its place yet. -/
def Call.line? : Call → Option Text
  | .classify _ _ => none
  | .replace line => line

/-- What the calls make of a new fragment: the first replacement by a text, and the last
classification with what it was given up to the first unknown name. -/
structure ComesOf (text : Text) (calls : List Call) (fragment : Fragment) : Prop where
  text_eq : fragment.text = text
  rendered_eq : ∀ earlier line later, calls = earlier ++ .replace (some line) :: later →
    (∀ other, .replace (some other) ∉ earlier) → fragment.rendered = line
  rendered_eq_text : (∀ line, .replace (some line) ∉ calls) → fragment.rendered = text
  classified : ∀ earlier role settings later, calls = earlier ++ .classify role settings :: later →
    (∀ role settings, .classify role settings ∉ later) →
    fragment.role = role ∧ fragment.attributes.GivenBy (settings.takeWhile Setting.isKnown)
  unclassified : (∀ role settings, .classify role settings ∉ calls) →
    fragment.role = .text ∧ fragment.attributes = {}

section perform

variable {role : Role} {settings : List Setting}

theorem text_perform (fragment : Fragment) (call : Call) :
    (fragment.perform call).1.text = fragment.text := by
  cases call with
  | classify role settings =>
    rw [perform, classify]
    split <;> rfl
  | replace line =>
    rw [perform, replace]
    cases fragment.replacement <;> rfl

theorem replacement_perform (fragment : Fragment) (call : Call) :
    (fragment.perform call).1.replacement = fragment.replacement.or call.line? := by
  cases call with
  | classify role settings =>
    rw [perform, classify, Call.line?, Option.or_none]
    split <;> rfl
  | replace line =>
    rw [perform, replace]
    cases hReplacement : fragment.replacement with
    | none => rfl
    | some old => exact hReplacement

theorem perform_replace_of_replaced {fragment : Fragment} {old : Text}
    (h : fragment.replacement = some old) (line : Option Text) :
    fragment.perform (.replace line) = (fragment, some (.alreadyReplaced fragment.text)) := by
  rw [perform, replace, h]

theorem perform_replace_of_fresh {fragment : Fragment} (h : fragment.replacement = none)
    (line : Option Text) :
    fragment.perform (.replace line) = ({ fragment with replacement := line }, none) := by
  rw [perform, replace, h]

theorem perform_classify (fragment : Fragment) (role : Role)
    (hNames : ∀ name, .reserved name ∉ settings) :
    fragment.perform (.classify role settings) =
      ({ fragment with role, attributes := (Setting.applyAll {} settings).1 },
        (Setting.applyAll {} settings).2) := by
  have hNone : settings.findSome? Setting.reserved? = none := by
    rw [List.findSome?_eq_none_iff]
    intro setting hSetting
    cases setting with
    | name | hasNext | unknown => rfl
    | reserved name => exact absurd hSetting (hNames name)
  rw [perform, classify, hNone]

theorem exists_fault_classify_iff (fragment : Fragment) (role : Role)
    (hNames : ∀ name, .reserved name ∉ settings) :
    (∃ fault, (fragment.perform (.classify role settings)).2 = some fault) ↔
      ∃ name, .unknown name ∈ settings := by
  rw [perform_classify fragment role hNames, Setting.exists_fault_applyAll_iff]
  constructor
  · rintro ⟨setting, hMem, hUnknown⟩
    cases setting with
    | name | hasNext => cases hUnknown
    | unknown name => exact ⟨name, hMem⟩
    | reserved name => exact absurd hMem (hNames name)
  · rintro ⟨name, hMem⟩
    exact ⟨_, hMem, rfl⟩

/-- Classification does not look at the replacement, nor replacement at the classification. -/
theorem perform_comm (fragment : Fragment) (role : Role) (settings : List Setting)
    (line : Option Text) :
    let classified := fragment.perform (.classify role settings)
    let replaced := fragment.perform (.replace line)
    (classified.1.perform (.replace line)).1 = (replaced.1.perform (.classify role settings)).1 ∧
      (classified.1.perform (.replace line)).2 = replaced.2 ∧
      (replaced.1.perform (.classify role settings)).2 = classified.2 := by
  have hText := fragment.text_perform (.classify role settings)
  have hSame := fragment.replacement_perform (.classify role settings)
  rw [Call.line?, Option.or_none] at hSame
  dsimp only
  cases hReplacement : fragment.replacement with
  | none =>
    rw [hReplacement] at hSame
    rw [perform_replace_of_fresh hReplacement, perform_replace_of_fresh hSame]
    rw [perform, perform, classify, classify]
    split <;> exact ⟨rfl, rfl, rfl⟩
  | some old =>
    rw [hReplacement] at hSame
    rw [perform_replace_of_replaced hReplacement, perform_replace_of_replaced hSame, hText]
    exact ⟨rfl, rfl, rfl⟩

end perform

section performAll

variable {calls : List Call}

theorem performAll_append (fragment : Fragment) (calls later : List Call) :
    fragment.performAll (calls ++ later) =
      (((fragment.performAll calls).1.performAll later).1,
        (fragment.performAll calls).2 ++ ((fragment.performAll calls).1.performAll later).2) := by
  induction calls generalizing fragment with
  | nil => rfl
  | cons call rest ih => simp only [List.cons_append, performAll, ih]

theorem length_performAll (fragment : Fragment) (calls : List Call) :
    (fragment.performAll calls).2.length = calls.length := by
  induction calls generalizing fragment with
  | nil => rfl
  | cons call rest ih => exact congrArg Nat.succ (ih (fragment.perform call).1)

theorem text_performAll (fragment : Fragment) (calls : List Call) :
    (fragment.performAll calls).1.text = fragment.text := by
  induction calls generalizing fragment with
  | nil => rfl
  | cons call rest ih => exact (ih (fragment.perform call).1).trans (fragment.text_perform call)

theorem replacement_performAll (fragment : Fragment) (calls : List Call) :
    (fragment.performAll calls).1.replacement =
      fragment.replacement.or (calls.findSome? Call.line?) := by
  induction calls generalizing fragment with
  | nil => exact Option.or_none.symm
  | cons call rest ih =>
    have hRest := ih (fragment.perform call).1
    rw [replacement_perform, Option.or_assoc] at hRest
    rw [List.findSome?_cons]
    cases hLine : call.line? <;> rw [hLine] at hRest <;> exact hRest

theorem performAll_of_unclassified (fragment : Fragment)
    (hNone : ∀ role settings, .classify role settings ∉ calls) :
    (fragment.performAll calls).1.role = fragment.role ∧
      (fragment.performAll calls).1.attributes = fragment.attributes := by
  induction calls generalizing fragment with
  | nil => exact ⟨rfl, rfl⟩
  | cons call rest ih =>
    obtain ⟨hRole, hAttributes⟩ := ih (fragment.perform call).1
      fun role settings hMem => hNone role settings (List.mem_cons_of_mem call hMem)
    have hCall : (fragment.perform call).1.role = fragment.role ∧
        (fragment.perform call).1.attributes = fragment.attributes := by
      cases call with
      | classify role settings => exact absurd List.mem_cons_self (hNone role settings)
      | replace line =>
        rw [perform, replace]
        cases fragment.replacement <;> exact ⟨rfl, rfl⟩
    exact ⟨hRole.trans hCall.1, hAttributes.trans hCall.2⟩

/-- The last classification is not undone by the calls after it. -/
theorem performAll_of_lastClassification (fragment : Fragment) (role : Role)
    {settings : List Setting} (hNames : ∀ name, .reserved name ∉ settings)
    (hLast : ∀ role settings, .classify role settings ∉ calls) :
    let final := (fragment.performAll (.classify role settings :: calls)).1
    final.role = role ∧ final.attributes.GivenBy (settings.takeWhile Setting.isKnown) := by
  have hFinal :=
    performAll_of_unclassified (fragment.perform (.classify role settings)).1 hLast
  rw [perform_classify fragment role hNames, Setting.fst_applyAll] at hFinal
  dsimp only
  rw [performAll, perform_classify fragment role hNames, Setting.fst_applyAll]
  refine ⟨hFinal.1, ?_⟩
  have hGiven := Attributes.givenBy_foldl (settings.takeWhile Setting.isKnown)
  exact hFinal.2 ▸ hGiven

theorem findSome?_line?_eq_none (hNone : ∀ line, .replace (some line) ∉ calls) :
    calls.findSome? Call.line? = none := by
  rw [List.findSome?_eq_none_iff]
  intro call hCall
  cases call with
  | classify => rfl
  | replace line =>
    cases line with
    | none => rfl
    | some line => exact absurd hCall (hNone line)

theorem exists_replacement_iff (text : Text) :
    (∃ line, (performAll { text } calls).1.replacement = some line) ↔
      ∃ line, .replace (some line) ∈ calls := by
  rw [replacement_performAll]
  change (∃ line, calls.findSome? Call.line? = some line) ↔ _
  constructor
  · rintro ⟨line, hLine⟩
    obtain ⟨call, hCall, hSome⟩ := List.exists_of_findSome?_eq_some hLine
    cases call with
    | classify => cases hSome
    | replace given =>
      obtain rfl : given = some line := hSome
      exact ⟨line, hCall⟩
  · rintro ⟨line, hLine⟩
    rw [← Option.isSome_iff_exists, List.findSome?_isSome_iff]
    exact ⟨_, hLine, rfl⟩

theorem comesOf_performAll (text : Text)
    (hNames : ∀ role settings, .classify role settings ∈ calls →
      ∀ name, .reserved name ∉ settings) :
    ComesOf text calls (performAll { text } calls).1 where
  text_eq := text_performAll { text } calls
  rendered_eq earlier line later hCalls hFirst := by
    rw [rendered, replacement_performAll, hCalls, List.findSome?_append,
      findSome?_line?_eq_none hFirst]
    rfl
  rendered_eq_text hNone := by
    rw [rendered, replacement_performAll, findSome?_line?_eq_none hNone]
    exact text_performAll { text } calls
  classified earlier role settings later hCalls hLast := by
    have hCall : .classify role settings ∈ calls := by
      rw [hCalls]
      exact List.mem_append_right earlier List.mem_cons_self
    rw [hCalls, performAll_append]
    exact performAll_of_lastClassification _ role (hNames role settings hCall) hLast
  unclassified hNone := performAll_of_unclassified { text } hNone

theorem performAll_append_pair (fragment : Fragment) (earlier later : List Call)
    (first second : Call) :
    let before := (fragment.performAll earlier).1
    let between := (before.perform first).1
    let after := (between.perform second).1
    fragment.performAll (earlier ++ first :: second :: later) =
      ((after.performAll later).1, (fragment.performAll earlier).2 ++
        (before.perform first).2 :: (between.perform second).2 :: (after.performAll later).2) :=
  fragment.performAll_append earlier (first :: second :: later)

theorem performAll_exchanged (fragment : Fragment) (earlier later : List Call) (role : Role)
    (settings : List Setting) (line : Option Text) :
    ∃ final faults fault fault' faults', faults.length = earlier.length ∧
      fragment.performAll (earlier ++ .classify role settings :: .replace line :: later) =
        (final, faults ++ fault :: fault' :: faults') ∧
      fragment.performAll (earlier ++ .replace line :: .classify role settings :: later) =
        (final, faults ++ fault' :: fault :: faults') := by
  obtain ⟨hFinal, hReplace, hClassify⟩ :=
    (fragment.performAll earlier).1.perform_comm role settings line
  refine ⟨_, _, _, _, _, fragment.length_performAll earlier,
    fragment.performAll_append_pair earlier later _ _, ?_⟩
  rw [performAll_append_pair, hFinal, hReplace, hClassify]

/-- Of a new fragment, calls without the names that a classification has for its own arguments make
what `ComesOf` says. A replacement fails if and only if there was one by a text before it, and
changes nothing then; a classification fails if and only if a name is unknown. Two calls of
different kinds that follow on each other can change places: the fragment becomes the same, and the
same calls fail. -/
theorem performAll_history (text : Text) (calls : List Call)
    (hNames : ∀ role settings, .classify role settings ∈ calls →
      ∀ name, .reserved name ∉ settings) :
    ComesOf text calls (performAll { text } calls).1 ∧
      (∀ earlier line later, calls = earlier ++ .replace line :: later →
        let before := (performAll { text } earlier).1
        ((∃ fault, (before.perform (.replace line)).2 = some fault) ↔
          ∃ other, .replace (some other) ∈ earlier) ∧
        ∀ fault, (before.perform (.replace line)).2 = some fault →
          before.perform (.replace line) = (before, some (.alreadyReplaced text))) ∧
      (∀ earlier role settings later, calls = earlier ++ .classify role settings :: later →
        let before := (performAll { text } earlier).1
        (∃ fault, (before.perform (.classify role settings)).2 = some fault) ↔
          ∃ name, .unknown name ∈ settings) ∧
      ∀ earlier role settings line later,
        ∃ final faults fault fault' faults', faults.length = earlier.length ∧
          performAll { text } (earlier ++ .classify role settings :: .replace line :: later) =
            (final, faults ++ fault :: fault' :: faults') ∧
          performAll { text } (earlier ++ .replace line :: .classify role settings :: later) =
            (final, faults ++ fault' :: fault :: faults') := by
  refine ⟨comesOf_performAll text hNames, ?_, ?_,
    fun earlier role settings line later =>
      performAll_exchanged { text } earlier later role settings line⟩
  · intro earlier line later _
    dsimp only
    rw [← exists_replacement_iff text]
    have hText := text_performAll { text } earlier
    generalize (performAll { text } earlier).1 = before at hText
    cases hReplacement : before.replacement with
    | none =>
      rw [perform_replace_of_fresh hReplacement]
      exact ⟨⟨nofun, nofun⟩, nofun⟩
    | some old =>
      rw [perform_replace_of_replaced hReplacement, hText]
      exact ⟨⟨fun _ => ⟨old, rfl⟩, fun _ => ⟨_, rfl⟩⟩, fun _ _ => rfl⟩
  · intro earlier role settings later hCalls
    have hCall : .classify role settings ∈ calls := by
      rw [hCalls]
      exact List.mem_append_right earlier List.mem_cons_self
    exact exists_fault_classify_iff _ role (hNames role settings hCall)

def ownedTable : List Setting :=
  [.name .schema (some "s"), .unknown "owner", .name .table (some "b")]

def mixedCalls : List Call :=
  [.replace none, .classify .condition [.name .column (some "v")], .replace (some "x"),
    .classify .table ownedTable, .replace none]

/-- The second replacement counts and the third fails; of the table only the schema is known. -/
theorem performAll_history_mixedCalls :
    (∀ role settings, .classify role settings ∈ mixedCalls → ∀ name, .reserved name ∉ settings) ∧
      let final := (performAll { text := "a" } mixedCalls).1
      final.rendered = "x".toList ∧ final.role = .table ∧
        final.attributes.get .schema = some "s".toList ∧ final.attributes.get .table = none ∧
        final.attributes.get .column = none ∧
        ∃ fault, ((performAll { text := "a" } (mixedCalls.take 4)).1.perform
          (.replace none)).2 = some fault := by
  have hNames : ∀ role settings, .classify role settings ∈ mixedCalls →
      ∀ name, .reserved name ∉ settings := by
    intro role settings hMem name
    simp only [mixedCalls, List.mem_cons, Call.classify.injEq, reduceCtorEq, false_or, or_false,
      List.not_mem_nil] at hMem
    rcases hMem with ⟨-, rfl⟩ | ⟨-, rfl⟩ <;> simp [ownedTable]
  obtain ⟨hComes, hReplace, -, -⟩ := performAll_history "a" mixedCalls hNames
  obtain ⟨hRole, hGiven⟩ := hComes.classified (mixedCalls.take 3) .table ownedTable _ rfl (by simp)
  refine ⟨hNames, hComes.rendered_eq (mixedCalls.take 2) "x" _ rfl (by simp [mixedCalls]), hRole,
    hGiven.get_eq .schema _ [] [] rfl (by simp), hGiven.get_eq_none .table ?_,
    hGiven.get_eq_none .column ?_, ?_⟩
  · intro value
    change _ ∉ ownedTable.take 1
    simp [ownedTable]
  · intro value
    change _ ∉ ownedTable.take 1
    simp [ownedTable]
  · exact (hReplace (mixedCalls.take 4) none [] rfl).1.mpr ⟨"x", by simp [mixedCalls]⟩

end performAll

end Fragment

end QueryPatch
