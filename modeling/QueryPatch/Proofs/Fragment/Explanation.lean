import QueryPatch.Fragment.Explanation
import QueryPatch.Proofs.Line.Classification
import QueryPatch.Proofs.Query.Lines
import Mathlib.Data.List.Basic

/-! # Explanations read back

Role and details hold no bar, so the first bar of an explanation ends them. Details that fill more
than their column push the bar to the right, but they can be read from their start.
-/
set_option autoImplicit false

namespace QueryPatch

open Text

/-! ## Reading a heading -/

def Role.all : List Role :=
  [.text, .table, .aggregation, .join, .condition] ++ Keyword.all.map .keyword

def Role.ofColumn? (column : Text) : Option Role :=
  Role.all.find? fun role => padTo Fragment.roleWidth role.label = column

theorem Role.ofColumn?_padTo (role : Role) :
    ofColumn? (padTo Fragment.roleWidth role.label) = some role := by
  cases role with
  | keyword keyword => cases keyword <;> decide
  | text | table | aggregation | join | condition => decide

namespace Text

/-- Two words with a dot between them, and what follows. -/
def dotted? (text : Text) : Option ((Text × Text) × Text) := do
  let (first, rest) ← word? text
  let (second, rest) ← word? (← after? "." rest)
  return ((first, second), rest)

def beforeLastSpace (text : Text) : Text := (text.reverse.dropWhile (· ≠ ' ')).tail.reverse

end Text

/-- The attributes that stand in the details of a line. What follows the details does not count. -/
def Attributes.ofDetails? : Role → Text → Option Attributes
  | .table, text => do
    let ((schema, table), rest) ← dotted? text
    let (tableAlias, _) ← word? (← after? " -> " rest)
    return { schema := some schema, table := some table, tableAlias := some tableAlias }
  | .aggregation, text => do
    -- the function may hold spaces, the alias after it does not
    let function := beforeLastSpace (text.takeWhile (· ≠ '.'))
    let ((tableAlias, column), rest) ← dotted? (text.drop (function.length + 1))
    let (outputName, _) ← word? (← after? " -> " rest)
    return { function := some function, tableAlias := some tableAlias, column := some column,
             outputName := some outputName }
  | .join, text => do
    let ((tableAlias, column), rest) ← dotted? text
    let ((joinedAlias, joinedColumn), _) ← dotted? (← after? " = " rest)
    return { tableAlias := some tableAlias, column := some column,
             joinedAlias := some joinedAlias, joinedColumn := some joinedColumn }
  | .condition, text => do
    let ((tableAlias, column), _) ← dotted? text
    return { tableAlias := some tableAlias, column := some column }
  | .text, _ | .keyword _, _ => some {}

/-- Role and attributes as they stand in the heading of an explanation. -/
def Fragment.ofHeading? (heading : Text) : Option (Role × Attributes) := do
  let role ← Role.ofColumn? (heading.take roleWidth)
  return (role, ← Attributes.ofDetails? role (heading.drop (roleWidth + 1)))

/-! ## Details -/

namespace Text

variable {word first second rest : Text}

theorem word?_append (hWord : IsWord word) (hRest : ∀ c ∈ rest.head?, isWordChar c = false) :
    word? (word ++ rest) = some (word, rest) :=
  word?_eq_some_iff.mpr ⟨hWord, rfl, hRest⟩

theorem after?_append (lead rest : Text) : after? lead (lead ++ rest) = some rest :=
  after?_eq_some_iff.mpr rfl

theorem dotted?_append (hFirst : IsWord first) (hSecond : IsWord second)
    (hRest : ∀ c ∈ rest.head?, isWordChar c = false) :
    dotted? (first ++ (".".toList ++ (second ++ rest))) = some ((first, second), rest) := by
  have hDot : ∀ c ∈ (".".toList ++ (second ++ rest)).head?, isWordChar c = false := by
    rintro c ⟨⟩
    decide
  simp only [dotted?, word?_append hFirst hDot, after?_append, word?_append hSecond hRest,
    Option.bind_eq_bind, Option.bind_some]
  rfl

theorem beforeLastSpace_append (front : Text) (h : ' ' ∉ word) :
    beforeLastSpace (front ++ ' ' :: word) = front := by
  have hWord : ∀ c ∈ word.reverse, decide (c ≠ ' ') = true := fun c hc =>
    decide_eq_true fun hSpace => h (hSpace ▸ List.mem_reverse.mp hc)
  rw [beforeLastSpace, List.reverse_append, List.reverse_cons, List.append_assoc,
    List.dropWhile_append_of_pos hWord]
  simp

theorem IsWord.not_mem {c : Char} (h : IsWord word) (hc : isWordChar c = false) : c ∉ word :=
  fun hMem => Bool.false_ne_true (hc.symm.trans (h.2 c hMem))

theorem mem_of_mem_strip {text : Text} {c : Char} (h : c ∈ strip text) : c ∈ text := by
  rw [strip, stripEnd, List.mem_reverse] at h
  exact (List.dropWhile_suffix _).subset
    (List.mem_reverse.mp ((List.dropWhile_suffix _).subset h))

end Text

/-! ## The code points before the bar -/

/-- What roles and details are written with. There is no bar and no newline among it. -/
def isHeadingChar (c : Char) : Bool := isWordChar c || " (.->=".toList.contains c

def IsHeading (text : Text) : Prop := ∀ c ∈ text, isHeadingChar c = true

namespace IsHeading

variable {first second text : Text}

theorem of_all (h : text.all isHeadingChar = true) : IsHeading text := List.all_eq_true.mp h

theorem of_isWord (h : IsWord text) : IsHeading text := fun c hc => by
  rw [isHeadingChar, h.2 c hc, Bool.true_or]

theorem append (hFirst : IsHeading first) (hSecond : IsHeading second) :
    IsHeading (first ++ second) := fun c hc =>
  (List.mem_append.mp hc).elim (hFirst c) (hSecond c)

theorem padTo (width : Nat) (h : IsHeading text) : IsHeading (Text.padTo width text) :=
  h.append fun c hc => by rw [List.eq_of_mem_replicate hc]; rfl

theorem not_mem {c : Char} (h : IsHeading text) (hc : isHeadingChar c = false) : c ∉ text :=
  fun hMem => Bool.false_ne_true (hc.symm.trans (h c hMem))

end IsHeading

theorem Role.isHeading_label (role : Role) : IsHeading role.label := by
  cases role with
  | keyword keyword => cases keyword <;> exact .of_all rfl
  | text | table | aggregation | join | condition => exact .of_all rfl

theorem Role.length_label_le (role : Role) : role.label.length ≤ Fragment.roleWidth := by
  cases role with
  | keyword keyword => cases keyword <;> decide
  | text | table | aggregation | join | condition => decide

section finds

variable {clause : Clause} {text : Text} {shape : Shape}

theorem AggregationLine.isFunctionChar_of_mem {line opening tableAlias column outputName : Text}
    {hasNext : Bool} (h : AggregationLine line opening tableAlias column outputName hasNext)
    {c : Char} (hc : c ∈ strip opening) : isWordChar c = true ∨ c = ' ' ∨ c = '(' :=
  h.opening_chars c (mem_of_mem_strip hc)

/-- The first dot stands behind the alias, and the last space before that ends the function. -/
theorem AggregationLine.beforeLastSpace_eq {line opening tableAlias column outputName : Text}
    {hasNext : Bool} (h : AggregationLine line opening tableAlias column outputName hasNext)
    (rest : Text) :
    beforeLastSpace
        ((strip opening ++ (" ".toList ++ (tableAlias ++ (".".toList ++ rest)))).takeWhile (· ≠ '.')) =
      strip opening := by
  have hOwn : ∀ c ∈ strip opening ++ ' ' :: tableAlias, decide (c ≠ '.') = true := by
    intro c hc
    refine decide_eq_true ?_
    rintro rfl
    rcases List.mem_append.mp hc with hc | hc
    · exact absurd (h.isFunctionChar_of_mem hc) (by decide)
    · rcases List.mem_cons.mp hc with hc | hc
      · cases hc
      · exact h.tableAlias_isWord.not_mem rfl hc
  have hStop : ∀ c ∈ (".".toList ++ rest).head?, decide (c ≠ '.') = false := by
    rintro c ⟨⟩
    decide
  have hText : strip opening ++ (" ".toList ++ (tableAlias ++ (".".toList ++ rest))) =
      strip opening ++ ' ' :: tableAlias ++ (".".toList ++ rest) := by
    simp
  rw [hText, (takeWhile_dropWhile_append hOwn hStop).1]
  exact beforeLastSpace_append _ (h.tableAlias_isWord.not_mem rfl)

theorem Clause.Finds.ofDetails? (h : clause.Finds text shape) {rest : Text}
    (hRest : ∀ c ∈ rest.head?, isWordChar c = false) :
    Attributes.ofDetails? shape.role (shape.attributes.details shape.role ++ rest) =
      some { shape.attributes with hasNext := false } := by
  have hArrow (name : Text) : ∀ c ∈ (" -> ".toList ++ (name ++ rest)).head?,
      isWordChar c = false := by
    rintro c ⟨⟩
    decide
  cases h with
  | table _ hLine =>
    simp only [Shape.role, Shape.attributes, Attributes.details, shown, Option.getD_some,
      List.append_assoc, Attributes.ofDetails?,
      dotted?_append hLine.schema_isWord hLine.name_isWord (hArrow _), after?_append,
      word?_append hLine.tableAlias_isWord hRest, Option.bind_eq_bind, Option.bind_some]
    rfl
  | condition _ hLine =>
    simp only [Shape.role, Shape.attributes, Attributes.details, shown, Option.getD_some,
      List.append_assoc, Attributes.ofDetails?,
      dotted?_append hLine.tableAlias_isWord hLine.column_isWord hRest, Option.bind_eq_bind,
      Option.bind_some]
    rfl
  | @join tableAlias column joinedAlias joinedColumn _ hLine =>
    have hEquals : ∀ c ∈ (" = ".toList ++
        (joinedAlias ++ (".".toList ++ (joinedColumn ++ rest)))).head?, isWordChar c = false := by
      rintro c ⟨⟩
      decide
    simp only [Shape.role, Shape.attributes, Attributes.details, shown, Option.getD_some,
      List.append_assoc, Attributes.ofDetails?,
      dotted?_append hLine.tableAlias_isWord hLine.column_isWord hEquals, after?_append,
      dotted?_append hLine.joinedAlias_isWord hLine.joinedColumn_isWord hRest, Option.bind_eq_bind,
      Option.bind_some]
    rfl
  | @aggregation opening _ _ _ _ _ hLine =>
    have hAfter (after : Text) : (strip opening ++ (" ".toList ++ after)).drop
        ((strip opening).length + 1) = after := by
      rw [← List.append_assoc]
      exact List.drop_left' (by simp)
    simp only [Shape.role, Shape.attributes, Attributes.details, shown, Option.getD_some,
      List.append_assoc, Attributes.ofDetails?, hLine.beforeLastSpace_eq, hAfter,
      dotted?_append hLine.tableAlias_isWord hLine.column_isWord (hArrow _), after?_append,
      word?_append hLine.outputName_isWord hRest, Option.bind_eq_bind, Option.bind_some]
    rfl

theorem Clause.Finds.isHeading_details (h : clause.Finds text shape) :
    IsHeading (shape.attributes.details shape.role) := by
  cases h with
  | aggregation _ hLine =>
    have hFunction : IsHeading (strip _) := fun c hc => by
      rcases hLine.isFunctionChar_of_mem hc with hWord | rfl | rfl
      · rw [isHeadingChar, hWord, Bool.true_or]
      · rfl
      · rfl
    exact ((((((hFunction.append (.of_all rfl)).append (.of_isWord hLine.tableAlias_isWord)).append
      (.of_all rfl)).append (.of_isWord hLine.column_isWord)).append (.of_all rfl)).append
      (.of_isWord hLine.outputName_isWord))
  | table _ hLine =>
    exact (((((IsHeading.of_isWord hLine.schema_isWord).append (.of_all rfl)).append
      (.of_isWord hLine.name_isWord)).append (.of_all rfl)).append
      (.of_isWord hLine.tableAlias_isWord))
  | join _ hLine =>
    exact ((((((IsHeading.of_isWord hLine.tableAlias_isWord).append (.of_all rfl)).append
      (.of_isWord hLine.column_isWord)).append (.of_all rfl)).append
      (.of_isWord hLine.joinedAlias_isWord)).append (.of_all rfl)).append
      (.of_isWord hLine.joinedColumn_isWord)
  | condition _ hLine =>
    exact ((IsHeading.of_isWord hLine.tableAlias_isWord).append (.of_all rfl)).append
      (.of_isWord hLine.column_isWord)

/-- Of all lines, a comma counts only behind an aggregation. -/
theorem Clause.Finds.hasNext_iff {line : Text} (h : clause.Finds (strip line) shape) :
    shape.attributes.hasNext = true ↔
      shape.role = .aggregation ∧ (strip line).getLast? = some ',' := by
  cases h with
  | @aggregation _ _ _ _ hasNext _ hLine =>
    obtain ⟨mark, -, hLayout⟩ := hLine.layout
    have hLast : (strip line).getLast? = some (if hasNext then ',' else '"') := by
      rw [hLayout, List.getLast?_append, List.getLast?_append, inQuotes, List.getLast?_concat]
      cases hasNext <;> rfl
    rw [hLast]
    cases hasNext <;> simp [Shape.attributes, Shape.role]
  | table | join | condition => simp [Shape.attributes, Shape.role]

end finds

/-! ## Explanations -/

namespace Fragment

/-- What an explanation has before the bar. -/
def heading (fragment : Fragment) : Text :=
  padTo roleWidth fragment.role.label ++ " " ++
    padTo detailsWidth (fragment.attributes.details fragment.role) ++ " "

/-- What an explanation has after the first bar and the space behind it. -/
def explainedText (line : Text) : Text := (line.dropWhile (· ≠ '|')).drop 2

variable {fragment fragment' : Fragment} {before before' : Text}

theorem ofHeading?_heading {attributes : Attributes}
    (hDetails : ∀ rest : Text, (∀ c ∈ rest.head?, isWordChar c = false) →
      Attributes.ofDetails? fragment.role (fragment.attributes.details fragment.role ++ rest) =
        some attributes) :
    ofHeading? fragment.heading = some (fragment.role, attributes) := by
  have hLength : (padTo roleWidth fragment.role.label).length = roleWidth := by
    rw [length_padTo, Nat.max_eq_left fragment.role.length_label_le]
  have hRole : fragment.heading.take roleWidth = padTo roleWidth fragment.role.label := by
    rw [heading, List.append_assoc, List.append_assoc, List.take_left' hLength]
  generalize hGap : List.replicate
    (detailsWidth - (fragment.attributes.details fragment.role).length) ' ' ++ [' '] = gap
  have hRest : fragment.heading.drop (roleWidth + 1) =
      fragment.attributes.details fragment.role ++ gap := by
    rw [heading, List.append_assoc, List.drop_left' (by rw [List.length_append, hLength]; rfl),
      padTo, List.append_assoc, ← hGap]
    rfl
  have hSpace : ∀ c ∈ gap.head?, isWordChar c = false := by
    intro c hc
    have hMem := List.mem_of_mem_head? hc
    rw [← hGap, List.mem_append, List.mem_singleton] at hMem
    rcases hMem with hMem | rfl
    · rw [List.eq_of_mem_replicate hMem]
      rfl
    · rfl
  rw [ofHeading?, hRole, Role.ofColumn?_padTo, hRest]
  simp only [Option.bind_eq_bind, Option.bind_some, hDetails gap hSpace]
  rfl

/-- All that there is to a fragment stands in its explanation: its text after the bar, its role and
attributes before it. Whether another item follows is seen from the text. -/
structure Headed (fragment : Fragment) (before : Text) : Prop where
  layout : fragment.explained = before ++ "| ".toList ++ fragment.text
  no_bar : '|' ∉ before
  no_newline : '\n' ∉ before
  read : ofHeading? before = some (fragment.role, { fragment.attributes with hasNext := false })
  hasNext_iff : fragment.attributes.hasNext = true ↔
    fragment.role = .aggregation ∧ (strip fragment.text).getLast? = some ','

namespace Headed

theorem takeWhile_dropWhile (h : fragment.Headed before) :
    fragment.explained.takeWhile (· ≠ '|') = before ∧
      fragment.explained.dropWhile (· ≠ '|') = "| ".toList ++ fragment.text := by
  rw [h.layout, List.append_assoc]
  refine takeWhile_dropWhile_append (fun c hc => decide_eq_true ?_) ?_
  · rintro rfl
    exact h.no_bar hc
  · rintro c ⟨⟩
    decide

theorem explainedText_explained (h : fragment.Headed before) :
    explainedText fragment.explained = fragment.text := by
  rw [explainedText, h.takeWhile_dropWhile.2]
  rfl

theorem eq_of_explained_eq (h : fragment.Headed before) (h' : fragment'.Headed before')
    (hReplacement : fragment.replacement = fragment'.replacement)
    (hSame : fragment.explained = fragment'.explained) : fragment = fragment' := by
  have hText : fragment.text = fragment'.text := by
    rw [← h.explainedText_explained, ← h'.explainedText_explained, hSame]
  have hBefore : before = before' := by
    rw [← h.takeWhile_dropWhile.1, ← h'.takeWhile_dropWhile.1, hSame]
  have hRead := h.read.symm.trans (hBefore ▸ h'.read)
  rw [Option.some.injEq, Prod.mk.injEq] at hRead
  obtain ⟨hRole, hAttributes⟩ := hRead
  have hHasNext : fragment.attributes.hasNext = fragment'.attributes.hasNext := by
    rw [Bool.eq_iff_iff, h.hasNext_iff, h'.hasNext_iff, hRole, hText]
  cases fragment with | mk text replacement role attributes =>
  cases fragment' with | mk text' replacement' role' attributes' =>
  cases attributes
  cases attributes'
  simp_all

end Headed

end Fragment

theorem Classified.headed {clause : Clause} {line : Text} {reading : Reading}
    (h : Classified clause line reading) :
    reading.fragment.Headed reading.fragment.heading := by
  have hHeading (hDetails : IsHeading (reading.fragment.attributes.details reading.fragment.role)) :
      IsHeading reading.fragment.heading :=
    (((reading.fragment.role.isHeading_label.padTo _).append (.of_all rfl)).append
      (hDetails.padTo _)).append (.of_all rfl)
  have hLayout : reading.fragment.explained =
      reading.fragment.heading ++ "| ".toList ++ reading.fragment.text := by
    simp [Fragment.explained, Fragment.heading]
  cases h with
  | shape hFinds =>
    have hOwn := hHeading hFinds.isHeading_details
    exact ⟨hLayout, hOwn.not_mem rfl, hOwn.not_mem rfl,
      Fragment.ofHeading?_heading fun _ hRest => hFinds.ofDetails? hRest, hFinds.hasNext_iff⟩
  | keyword | plain =>
    have hOwn := hHeading nofun
    exact ⟨hLayout, hOwn.not_mem rfl, hOwn.not_mem rfl, Fragment.ofHeading?_heading fun _ _ => rfl,
      nofun, nofun⟩

theorem Query.headed_of_mem {lines : List Text} {fragment : Fragment}
    (h : fragment ∈ (Query.ofLines lines).fragments) : fragment.Headed fragment.heading := by
  obtain ⟨reading, hReading, rfl⟩ := List.mem_map.mp h
  obtain ⟨line, hLine⟩ := List.mem_iff_getElem?.mp hReading
  obtain ⟨text, -, rfl⟩ := getElem?_standard_eq_some_iff.mp hLine
  exact (classified_readLine _ text).headed

end QueryPatch
