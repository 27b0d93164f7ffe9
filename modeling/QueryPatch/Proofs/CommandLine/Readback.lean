import Mathlib.Algebra.GroupWithZero.Nat
import QueryPatch.Proofs.CommandLine.Entries
import QueryPatch.Proofs.Patch.Idempotence
import QueryPatch.Proofs.Query.Roundtrip

/-! # Reading the output back

What the command line writes is captured text again. The queries found in it are the ones that were
written, on the lines on which they were written, if no quote stands in a line that was replaced.
-/
set_option autoImplicit false

namespace QueryPatch

open Text Capture

namespace CommandLine

section rendered

variable {rest : List Text}

@[simp] theorem rendered_nil : rendered [] = [] := rfl

/-- What is written behind the semicolon of a query. -/
def afterSemicolon (rest : List Text) : Text :=
  if rest = [] then ['\n'] else '\n' :: '\n' :: rendered rest

theorem rendered_cons (text : Text) (rest : List Text) :
    rendered (text :: rest) = text ++ ';' :: afterSemicolon rest := by
  have hLine : (";\n" : Text) = [';', '\n'] := rfl
  have hBreak : ("\n" : Text) = ['\n'] := rfl
  rw [rendered, List.map_cons, afterSemicolon]
  split
  · rename_i hRest
    rw [hRest, List.map_nil, join_singleton, hLine]
  · rename_i hRest
    rw [join_cons (by simpa using hRest), rendered, hLine, hBreak]
    simp

theorem statementsFrom_afterSemicolon (line : Nat) (rest : List Text) :
    statementsFrom line false (afterSemicolon rest) =
      statementsFrom (line + 2) true (rendered rest) := by
  rw [afterSemicolon]
  split
  · rename_i hRest
    rw [hRest, rendered_nil, statementsFrom_skip rfl, statementsFrom_nil, statementsFrom_nil]
  · rw [statementsFrom_skip rfl, statementsFrom_skip rfl]
    rfl

theorem mem_afterSemicolon_iff {c : Char} (h : c ≠ '\n') :
    c ∈ afterSemicolon rest ↔ c ∈ rendered rest := by
  rw [afterSemicolon]
  split
  · rename_i hRest
    simp [hRest, h]
  · simp [h]

end rendered

/-- Texts with the lines on which they are written: each has a line for its semicolon behind it, and
an empty line before the next one. -/
def written (texts : List Text) : List Statement :=
  texts.mapIdx fun position text =>
    ⟨1 + ((texts.take position).map fun earlier => earlier.count '\n' + 2).sum, text⟩

def writtenFrom (line : Nat) : List Text → List Statement
  | [] => []
  | text :: rest => ⟨line, text⟩ :: writtenFrom (line + text.count '\n' + 2) rest

theorem writtenFrom_eq (line : Nat) (texts : List Text) :
    writtenFrom line texts = texts.mapIdx fun position text =>
      ⟨line + ((texts.take position).map fun earlier => earlier.count '\n' + 2).sum, text⟩ := by
  induction texts generalizing line with
  | nil => rfl
  | cons text rest ih =>
    rw [writtenFrom, ih, List.mapIdx_cons]
    simp [Nat.add_assoc]

theorem written_eq (texts : List Text) : written texts = writtenFrom 1 texts :=
  (writtenFrom_eq 1 texts).symm

theorem map_text_writtenFrom (line : Nat) (texts : List Text) :
    (writtenFrom line texts).map (·.text) = texts := by
  induction texts generalizing line with
  | nil => rfl
  | cons text rest ih => rw [writtenFrom, List.map_cons, ih]

section scan

variable {captured stop new : Text} {rest : List Text}

/-- A query that was captured and then changed is found where it is written. -/
theorem statementsFrom_rendered_cons (line : Nat) (h : Revised (stripEnd captured) new)
    (hStop : ∀ c ∈ stop.head?, c = ';') (hStart : startsStatement (captured ++ stop) = true)
    (hEnd : fromTerminator (captured ++ stop) = stop)
    (hQuotes : '\'' ∈ rendered rest → '\'' ∈ stop) :
    statementsFrom line true (rendered (new :: rest)) =
      ⟨line, new⟩ :: statementsFrom (line + new.count '\n' + 2) true (rendered rest) := by
  obtain ⟨gap, hCaptured, hGap⟩ := exists_blank_behind captured
  have hBehind : Behind (gap ++ stop) stop := ⟨⟨gap, rfl, hGap⟩, hStop⟩
  have hBehind' := Behind.of_semicolon (afterSemicolon rest)
  have hQuotes' : '\'' ∈ ';' :: afterSemicolon rest → '\'' ∈ gap ++ stop := by
    intro hMem
    rcases List.mem_cons.mp hMem with hSemicolon | hMem
    · cases hSemicolon
    · exact List.mem_append_right gap (hQuotes ((mem_afterSemicolon_iff (by decide)).mp hMem))
  rw [hCaptured, List.append_assoc] at hStart hEnd
  rw [rendered_cons, statementsFrom_next (h.startsStatement hBehind hBehind' hStart)
    (h.fromTerminator_eq hBehind hBehind' hQuotes' hEnd),
    (h.isStripped (isStripped_stripEnd captured)).stripEnd_eq, statementsFrom_afterSemicolon]

theorem mem_of_mem_rendered_cons (h : Revised (stripEnd captured) new)
    (hQuotes : '\'' ∈ rendered rest → '\'' ∈ stop) (hMem : '\'' ∈ rendered (new :: rest)) :
    '\'' ∈ captured ++ stop := by
  obtain ⟨gap, hCaptured, -⟩ := exists_blank_behind captured
  rw [rendered_cons, List.mem_append, List.mem_cons, mem_afterSemicolon_iff (by decide)] at hMem
  rcases hMem with hMem | hSemicolon | hMem
  · rw [hCaptured]
    exact List.mem_append_left _ (List.mem_append_left _ (h.mem_quote hMem))
  · cases hSemicolon
  · exact List.mem_append_right _ (hQuotes hMem)

/-- All changed queries are found where they are written. -/
theorem statementsFrom_rendered {line : Nat} {lineStart : Bool} {text : Text} {texts : List Text}
    (h : List.Forall₂ (fun statement new => Revised statement.text new)
      (statementsFrom line lineStart text) texts) (first : Nat) :
    statementsFrom first true (rendered texts) = writtenFrom first texts ∧
      ('\'' ∈ rendered texts → '\'' ∈ text) := by
  induction lineStart, text using statements_induction generalizing line texts first with
  | nil lineStart =>
    rw [statementsFrom_nil] at h
    cases h
    exact ⟨statementsFrom_nil first true, id⟩
  | skip lineStart c rest hSkip ih =>
    rw [statementsFrom_skip hSkip] at h
    obtain ⟨hRead, hQuotes⟩ := ih h first
    exact ⟨hRead, fun hMem => List.mem_cons_of_mem c (hQuotes hMem)⟩
  | last text hWord hStop =>
    rw [statementsFrom_last hWord hStop] at h
    cases h with
    | cons hHere hRest =>
      cases hRest
      have hEmpty : ∀ c ∈ ([] : Text).head?, c = ';' := nofun
      rw [← List.append_nil text] at hWord hStop
      constructor
      · rw [statementsFrom_rendered_cons first hHere hEmpty hWord hStop id, rendered_nil,
          statementsFrom_nil]
        rfl
      · intro hMem
        rw [← List.append_nil text]
        exact mem_of_mem_rendered_cons hHere id hMem
  | next captured after hWord hStop ih =>
    rw [statementsFrom_next hWord hStop] at h
    cases h with
    | @cons _ new _ rest hHere hRest =>
      obtain ⟨hRead, hQuotes⟩ := ih hRest (first + new.count '\n' + 2)
      have hQuotes' : '\'' ∈ rendered rest → '\'' ∈ ';' :: after :=
        fun hMem => List.mem_cons_of_mem _ (hQuotes hMem)
      have hSemicolon : ∀ c ∈ (';' :: after).head?, c = ';' := fun _ hc => (Option.some.inj hc).symm
      constructor
      · rw [statementsFrom_rendered_cons first hHere hSemicolon hWord hStop hQuotes', hRead]
        rfl
      · exact mem_of_mem_rendered_cons hHere hQuotes'

/-- Queries that were only captured are read back whatever stands in them. -/
theorem statements_rendered_map_text (content : Text) :
    Capture.statements (rendered ((Capture.statements content).map (·.text))) =
      written ((Capture.statements content).map (·.text)) := by
  have hSame : List.Forall₂ (fun statement new => Revised statement.text new)
      (Capture.statements content) ((Capture.statements content).map (·.text)) :=
    List.forall₂_map_right_iff.mpr (List.forall₂_same.mpr fun statement _ => .refl statement.text)
  rw [written_eq]
  exact (statementsFrom_rendered hSame 1).1

end scan

variable {patcher : Patcher}

theorem forall₂_patchAll (patcher : Patcher) (hRules : patcher.rules = Rule.standard)
    (hValidates : patcher.settings.validates = false) (hSeparator : patcher.settings.separator ≠ [])
    (columns : ColumnSet) (connection : Nat → Option Connection) (statements : List Statement) :
    List.Forall₂ (fun statement text => ∃ lines,
        split patcher.settings.separator statement.text = some lines ∧
          text = join patcher.settings.separator (patchedLines columns lines))
      statements ((patchAll patcher connection (some columns) statements).map (·.text)) := by
  induction statements generalizing connection with
  | nil => exact .nil
  | cons statement rest ih =>
    obtain ⟨lines, hSplit⟩ := exists_split hSeparator statement.text
    rw [patchAll, List.map_cons,
      (patcher.outcome_patch patcher.settings.sketchType (some columns) (connection 0)
        (.text statement.text : Source Empty)).held_of_warm]
    refine .cons ⟨lines, hSplit, ?_⟩ (ih fun query => connection (query + 1))
    rw [Result.text, Patcher.answer_patch_standard hRules hValidates hSplit]

theorem map_text_patchAll_nil (hRules : patcher.rules = Rule.standard)
    (hSeparator : patcher.settings.separator ≠ []) (connection : Nat → Option Connection)
    (statements : List Statement) :
    (patchAll patcher connection (some []) statements).map (·.text) =
      statements.map (·.text) := by
  have hTexts := congrArg (List.map (·.2))
    (@map_entry_patchAll patcher (some []) connection statements hSeparator)
  rw [entries_of_nil hRules hSeparator fun _ => rfl, unchanged, List.map_map,
    List.map_map] at hTexts
  exact hTexts

/-- The lines of the text that the rules replace under the columns have no quotes in them. -/
def ReplacesQuietly (patcher : Patcher) (columns : ColumnSet) (text : Text) : Prop :=
  ∀ query, Query.ofText? patcher.settings.separator text = .ok query →
    ∀ fragment ∈ (Rule.applyAll columns patcher.rules query).1.fragments,
      fragment.replacement ≠ none → '\'' ∉ fragment.text

theorem replacesQuietly_of_role {columns : ColumnSet} {text : Text} {lines : List Text}
    (hRules : patcher.rules = Rule.standard)
    (hSplit : split patcher.settings.separator text = some lines)
    (h : ∀ fragment ∈ (Query.ofLines lines).fragments,
      fragment.role = .aggregation → '\'' ∉ fragment.text) :
    ReplacesQuietly patcher columns text := by
  intro query hQuery fragment hFragment hNew
  rw [Query.ofText?_eq_ok hSplit] at hQuery
  obtain rfl := Except.ok.inj hQuery
  obtain ⟨flag, -, hRan⟩ := Rule.ran_standard columns lines
  rw [hRules, Rule.applyAll_of_ran hRan] at hFragment
  obtain ⟨old, hOld, rfl⟩ := List.mem_map.mp hFragment
  have hSums : Query.sums old = true := by
    by_contra hNot
    exact hNew (if_neg fun hBoth => hNot (Bool.and_eq_true_iff.mp hBoth).1)
  rw [Query.sums, Bool.and_eq_true, decide_eq_true_eq] at hSums
  exact h old hOld hSums.1

/-- What becomes of the queries of captured text, with columns at hand. -/
def patchedTexts (patcher : Patcher) (connection : Nat → Option Connection)
    (columns : ColumnSet) (content : Text) : List Text :=
  (patchAll patcher connection (some columns) (Capture.statements content)).map (·.text)

theorem patchedTexts_nil (hRules : patcher.rules = Rule.standard)
    (hSeparator : patcher.settings.separator ≠ []) (connection : Nat → Option Connection)
    (content : Text) :
    patchedTexts patcher connection [] content = (Capture.statements content).map (·.text) :=
  map_text_patchAll_nil hRules hSeparator connection (Capture.statements content)

/-- The queries that are written are read back as they were written, if no line that the rules
replaced has a quote in it. Without columns this is so for all captured text, and what is written
is written again. -/
theorem statements_rendered_patchedTexts (patcher : Patcher)
    (hRules : patcher.rules = Rule.standard) (hValidates : patcher.settings.validates = false)
    (hSeparator : patcher.settings.separator = "\n".toList)
    (connection : Nat → Option Connection) (columns : ColumnSet) (content : Text) :
    let texts := patchedTexts patcher connection
    ((∀ statement ∈ Capture.statements content,
        ReplacesQuietly patcher columns statement.text) →
      Capture.statements (rendered (texts columns content)) = written (texts columns content)) ∧
    Capture.statements (rendered (texts [] content)) = written (texts [] content) ∧
    texts [] content = (Capture.statements content).map (·.text) ∧
    rendered (texts [] (rendered (texts [] content))) = rendered (texts [] content) := by
  intro texts
  have hne : patcher.settings.separator ≠ [] := by
    rw [hSeparator]
    decide
  have hKept : ∀ content, texts [] content = (Capture.statements content).map (·.text) :=
    patchedTexts_nil hRules hne connection
  have hReads : Capture.statements (rendered (texts [] content)) = written (texts [] content) := by
    rw [hKept]
    exact statements_rendered_map_text content
  refine ⟨fun hQuiet => ?_, hReads, hKept content, ?_⟩
  · have hTexts := forall₂_patchAll patcher hRules hValidates hne columns connection
      (Capture.statements content)
    have hBoth := (List.forall₂_and_left _ _).mpr ⟨hQuiet, hTexts⟩
    rw [written_eq]
    refine (statementsFrom_rendered (hBoth.imp ?_) 1).1
    rintro statement text ⟨hQuiet, lines, hSplit, rfl⟩
    rw [← ((split_eq_some_iff hne).mp hSplit).2, hSeparator]
    apply revised_patchedLines
    intro line text tableAlias column outputName hasNext hText h
    obtain ⟨fragment, hMem, hNew, rfl⟩ := h.exists_replaced hText
    exact hQuiet _ (Query.ofText?_eq_ok hSplit) fragment (hRules ▸ hMem) hNew
  · rw [hKept (rendered (texts [] content)), hReads, written_eq, map_text_writtenFrom]

def sumWithQuotes : List Text := Patcher.sumOfSketch ++ ["where a = 'b''; c'".toList]

def behindSum : Text := "; it's\nselect 'd''"

/-- A quote stands between the queries, and the last query has one too many. -/
def capturedQuotes : Text := join "\n" sumWithQuotes ++ ' ' :: behindSum

theorem fromTerminator_capturedQuotes : fromTerminator capturedQuotes = behindSum := by
  have hText : capturedQuotes = (join "\n" Patcher.sumOfSketch ++ "\nwhere a = ") ++
      '\'' :: ("b''; c' ".toList ++ behindSum) := rfl
  have hLiteral : afterQuote ("b''; c' ".toList ++ behindSum) = ' ' :: behindSum := rfl
  rw [hText, fromTerminator_append_of_all rfl, fromTerminator_quote, hLiteral,
    fromTerminator_other (by decide) (by decide)]
  exact fromTerminator_semicolon _

theorem fromTerminator_selectQuotes : fromTerminator "select 'd''" = [] := by
  have hText : ("select 'd''" : Text) = "select ".toList ++ '\'' :: "d''".toList := rfl
  have hLiteral : afterQuote "d''".toList = ['\''] := rfl
  have hQuote : afterQuote [] = [] := rfl
  rw [hText, fromTerminator_append_of_all rfl, fromTerminator_quote, hLiteral,
    fromTerminator_quote, hQuote, fromTerminator_nil]

theorem statements_capturedQuotes : Capture.statements capturedQuotes =
    [⟨1, join "\n" sumWithQuotes⟩, ⟨6, "select 'd''"⟩] := by
  have hText : capturedQuotes =
      (join "\n" sumWithQuotes ++ [' ']) ++ ';' :: " it's\nselect 'd''".toList := rfl
  have hEnd := fromTerminator_capturedQuotes
  rw [hText] at hEnd
  rw [Capture.statements, hText, statementsFrom_next (by decide) hEnd]
  have hSkip : statementsFrom (1 + (join "\n" sumWithQuotes ++ [' ']).count '\n') false
      " it's\nselect 'd''".toList = statementsFrom 6 true "select 'd''".toList := by
    cbv
  rw [hSkip, statementsFrom_last (by decide) fromTerminator_selectQuotes]
  rfl

/-- A line of the first query is replaced, and both queries are read back. -/
theorem statements_rendered_capturedQuotes :
    ({} : Patcher).rules = Rule.standard ∧ ({} : Patcher).settings.validates = false ∧
      ({} : Patcher).settings.separator = "\n".toList ∧
      (∀ statement ∈ Capture.statements capturedQuotes,
        ReplacesQuietly {} ["s.b.v"] statement.text) ∧
      Capture.statements (rendered (patchedTexts {} (fun _ => none) ["s.b.v"] capturedQuotes)) =
        [⟨1, join "\n" (sumWithQuotes.set 1 (cardinalityLine "t" "v" "m" false))⟩,
          ⟨7, "select 'd''"⟩] := by
  have hSplit : split "\n" (join "\n" sumWithQuotes) = some sumWithQuotes :=
    (split_eq_some_iff (by decide)).mpr ⟨Cut.of_not_mem (by decide) (by decide), rfl⟩
  have hSplit' : split "\n" "select 'd''" = some ["select 'd''".toList] :=
    (split_eq_some_iff (by decide)).mpr ⟨Cut.of_not_mem (by decide) (by decide), rfl⟩
  have hQuiet : ∀ statement ∈ Capture.statements capturedQuotes,
      ReplacesQuietly {} ["s.b.v"] statement.text := by
    rw [statements_capturedQuotes]
    simp only [List.forall_mem_cons, List.not_mem_nil, false_imp_iff, implies_true, and_true]
    exact ⟨replacesQuietly_of_role rfl hSplit (by decide),
      replacesQuietly_of_role rfl hSplit' (by decide)⟩
  have hTexts : patchedTexts {} (fun _ => none) ["s.b.v"] capturedQuotes =
      [join "\n" (sumWithQuotes.set 1 (cardinalityLine "t" "v" "m" false)), "select 'd''"] := by
    have hForall := forall₂_patchAll {} rfl rfl (by decide) ["s.b.v"] (fun _ => none)
      (Capture.statements capturedQuotes)
    change List.Forall₂ _ _ (patchedTexts {} (fun _ => none) ["s.b.v"] capturedQuotes) at hForall
    rw [statements_capturedQuotes] at hForall
    generalize patchedTexts {} (fun _ => none) ["s.b.v"] capturedQuotes = texts at hForall
    cases hForall with
    | cons hFirst hRest =>
      cases hRest with
      | cons hSecond hNone =>
        cases hNone
        obtain ⟨lines, hLines, rfl⟩ := hFirst
        obtain ⟨lines', hLines', rfl⟩ := hSecond
        obtain rfl := Option.some.inj (hSplit.symm.trans hLines)
        obtain rfl := Option.some.inj (hSplit'.symm.trans hLines')
        rfl
  have hRead := (statements_rendered_patchedTexts {} rfl rfl rfl (fun _ => none) ["s.b.v"]
    capturedQuotes).1 hQuiet
  refine ⟨rfl, rfl, rfl, hQuiet, hRead.trans ?_⟩
  rw [hTexts]
  rfl

end CommandLine

end QueryPatch
