import Mathlib.Data.List.Infix
import QueryPatch.Proofs.CommandLine.Delivery
import QueryPatch.Proofs.Fragment.Explanation
import QueryPatch.Proofs.Query.Roundtrip
import QueryPatch.Proofs.Text.Occurrence

/-! # Explanations as output

What an explaining run prints can be read back: each line of a query with all that was found in it,
and from them the queries of the file. The first line about a query is known by its place, since a
query may hold lines that look like one.
-/
set_option autoImplicit false

namespace QueryPatch.CommandLine

open Text

/-! ## Reading the output -/

/-- How the first line about a query begins. Its number follows. -/
def caption : Text := "-- query at line "

/-- The number of the first line, and the texts that the lines below it explain. -/
def statementOf? : List Text → Option Statement
  | [] => none
  | first :: explained =>
    some ⟨Nat.ofDigitChars 10 (first.drop caption.length) 0,
      join "\n" (explained.map Fragment.explainedText)⟩

/-- Queries end with an empty line, and no other line is empty. -/
def explainedStatements (stdout : Text) : List Statement :=
  ((stdout.splitOn '\n').splitOnP List.isEmpty).filterMap statementOf?

/-! ## The lines of one query -/

/-- The lines that are printed about a query, without the empty one. -/
def explainedLines (statement : Statement) : List Text :=
  (caption ++ Text.ofNat statement.line) ::
    (Query.ofLines (pieces '\n' [] statement.text)).fragments.map (·.explained)

section statement

variable {settings : Settings} {statement : Statement} {text : Text}

theorem explanation_eq (hSeparator : settings.separator = "\n".toList) :
    (explanation settings statement).1 = (explainedLines statement ++ [[]]).flatMap line := by
  have hSplit : split settings.separator statement.text =
      some (pieces '\n' [] statement.text) := by
    rw [hSeparator]
    rfl
  have hFragments : (Query.ofLines (pieces '\n' [] statement.text)).fragments.map (·.explained) =
      (readLines Recogniser.standard .outside (pieces '\n' [] statement.text)).map
        (·.fragment.explained) :=
    List.map_map
  rw [explanation, Query.readings?_eq_ok hSplit, explainedLines, hFragments, List.cons_append,
    List.flatMap_cons, List.flatMap_append, List.flatMap_map, List.flatMap_singleton,
    ← List.append_assoc]
  rfl

theorem statementOf?_explainedLines (statement : Statement) :
    statementOf? (explainedLines statement) = some statement := by
  have hNumber : Nat.ofDigitChars 10
      ((caption ++ Text.ofNat statement.line).drop caption.length) 0 = statement.line := by
    rw [List.drop_left]
    exact (congrArg (Nat.ofDigitChars 10 · 0) Nat.toList_repr).trans Nat.ofDigitChars_ten_toDigits
  have hTexts : ((Query.ofLines (pieces '\n' [] statement.text)).fragments.map (·.explained)).map
      Fragment.explainedText = pieces '\n' [] statement.text := by
    rw [List.map_map]
    refine Eq.trans (List.map_congr_left fun fragment hFragment => ?_)
      (Query.map_text_ofLines (pieces '\n' [] statement.text))
    exact (Query.headed_of_mem hFragment).explainedText_explained
  rw [explainedLines, statementOf?, hTexts, hNumber]
  exact congrArg (fun text => some (⟨statement.line, text⟩ : Statement)) (cut_pieces _).2

theorem newline_not_mem_explainedLines (hMem : text ∈ explainedLines statement) : '\n' ∉ text := by
  rcases List.mem_cons.mp hMem with rfl | hMem
  · intro hNewline
    rcases List.mem_append.mp hNewline with hNewline | hNewline
    · exact absurd hNewline (by decide)
    · have hDigits : '\n' ∈ Nat.toDigits 10 statement.line := Nat.toList_repr ▸ hNewline
      exact absurd (Nat.isDigit_of_mem_toDigits (by decide) (by decide) hDigits) (by decide)
  · obtain ⟨fragment, hFragment, rfl⟩ := List.mem_map.mp hMem
    have hHeaded := Query.headed_of_mem hFragment
    have hText : fragment.text ∈ pieces '\n' [] statement.text := by
      rw [← Query.map_text_ofLines (pieces '\n' [] statement.text)]
      exact List.mem_map_of_mem hFragment
    have hCut : Cut ['\n'] (pieces '\n' [] statement.text) := (cut_pieces statement.text).1
    rw [hHeaded.layout, List.mem_append, List.mem_append]
    rintro ((hNewline | hNewline) | hNewline)
    · exact hHeaded.no_newline hNewline
    · exact absurd hNewline (by decide)
    · exact hCut.not_infix_of_mem (by decide) hText ((List.singleton_infix_iff _ _).mpr hNewline)

theorem isEmpty_eq_false_of_mem_explainedLines (hMem : text ∈ explainedLines statement) :
    text.isEmpty = false := by
  rcases List.mem_cons.mp hMem with rfl | hMem
  · rfl
  · obtain ⟨fragment, hFragment, rfl⟩ := List.mem_map.mp hMem
    rw [(Query.headed_of_mem hFragment).layout]
    simp

end statement

/-! ## The whole output -/

theorem splitOn_flatMap_line {lines : List Text} (h : ∀ text ∈ lines, '\n' ∉ text) :
    (lines.flatMap line).splitOn '\n' = lines ++ [[]] := by
  induction lines with
  | nil => rfl
  | cons text rest ih =>
    have hRest := ih fun other hOther => h other (List.mem_cons_of_mem text hOther)
    rw [List.flatMap_cons, line, List.append_assoc, List.singleton_append,
      List.splitOn_append_cons_self, List.splitOn_eq_singleton (h text List.mem_cons_self), hRest]
    rfl

theorem splitOnP_explainedLines (statements : List Statement) :
    (statements.flatMap (fun statement => explainedLines statement ++ [[]]) ++ [[]]).splitOnP
      List.isEmpty = statements.map explainedLines ++ [[], []] := by
  induction statements with
  | nil => rfl
  | cons statement rest ih =>
    rw [List.flatMap_cons, List.append_assoc, List.append_assoc, List.singleton_append,
      List.splitOnP_append_cons_of_forall_mem
        (fun text hText => isEmpty_eq_false_of_mem_explainedLines hText) [] rfl, ih]
    rfl

theorem explainedStatements_explain {settings : Settings}
    (hSeparator : settings.separator = "\n".toList) (statements : List Statement) :
    explainedStatements (explain settings statements).stdout = statements := by
  have hStdout : (explain settings statements).stdout =
      (statements.flatMap fun statement => explainedLines statement ++ [[]]).flatMap line := by
    simp only [explain, List.flatMap_map, explanation_eq hSeparator, List.flatMap_assoc]
  have hLines : ∀ text ∈ statements.flatMap fun statement => explainedLines statement ++ [[]],
      '\n' ∉ text := by
    intro text hText
    obtain ⟨statement, -, hText⟩ := List.mem_flatMap.mp hText
    rcases List.mem_append.mp hText with hText | hText
    · exact newline_not_mem_explainedLines hText
    · rw [List.mem_singleton.mp hText]
      exact List.not_mem_nil
  have hBack : statementOf? ∘ explainedLines = some := funext statementOf?_explainedLines
  rw [explainedStatements, hStdout, splitOn_flatMap_line hLines, splitOnP_explainedLines,
    List.filterMap_append, List.filterMap_map, hBack, List.filterMap_some]
  exact List.append_nil statements

/-- Explanations lose nothing. In each line of a query that was read, the text stands behind the
first bar, and role and attributes before it, so lines with one explanation are one line. From what
an explaining run prints, the queries of its file can be told with their line numbers. -/
theorem explanations_lossless :
    (∀ separator text : Text, separator ≠ [] →
        ∃ query, Query.ofText? separator text = .ok query ∧
          ∀ fragment ∈ query.fragments, ∃ before, fragment.Headed before) ∧
      (∀ separator text query separator' text' query',
        Query.ofText? separator text = .ok query → Query.ofText? separator' text' = .ok query' →
        ∀ fragment ∈ query.fragments, ∀ fragment' ∈ query'.fragments,
          fragment.explained = fragment'.explained → fragment = fragment') ∧
      ∀ arguments surroundings invocation content,
        Arguments.ofList arguments = .invocation invocation →
        invocation.options.explains = true →
        surroundings.storage.text? invocation.input = .ok content →
        explainedStatements (run arguments surroundings).stdout = Capture.statements content := by
  refine ⟨fun separator text hSeparator => ?_, ?_, ?_⟩
  · obtain ⟨lines, hSplit⟩ := exists_split hSeparator text
    exact ⟨_, Query.ofText?_eq_ok hSplit, fun fragment hFragment =>
      ⟨_, Query.headed_of_mem hFragment⟩⟩
  · intro separator text query separator' text' query' hQuery hQuery' fragment hFragment fragment'
      hFragment' hSame
    obtain ⟨lines, -, rfl⟩ := Query.ofText?_eq_ok_iff.mp hQuery
    obtain ⟨lines', -, rfl⟩ := Query.ofText?_eq_ok_iff.mp hQuery'
    refine (Query.headed_of_mem hFragment).eq_of_explained_eq (Query.headed_of_mem hFragment') ?_
      hSame
    rw [Query.replacement_eq_none_of_mem hFragment, Query.replacement_eq_none_of_mem hFragment']
  · intro arguments surroundings invocation content hArguments hExplains hText
    rw [run_of_invocation hArguments]
    by_cases hStatements : Capture.statements content = []
    · rw [invoke_of_no_statements hText hStatements, hStatements]
      rfl
    · rw [invoke_of_explains hText hStatements hExplains]
      exact explainedStatements_explain rfl (Capture.statements content)

/-- A query with an empty line, a line like a caption, and a bar. -/
def captionedQuery : Text := "select\n\n-- query at line 9\n| a"

def captionedSurroundings : Surroundings where
  storage := Files.storage [("in.sql", .file (encodeUtf8 captionedQuery))]
  connecting := .error []

theorem text?_captionedSurroundings :
    captionedSurroundings.storage.text? "in.sql" = .ok captionedQuery :=
  text?_inputFile captionedQuery

theorem statements_captionedQuery :
    Capture.statements captionedQuery = [⟨1, captionedQuery⟩] :=
  Capture.statements_of_all (by decide) rfl

/-- A run on a file with one query, which is found again. -/
theorem explanations_lossless_captionedQuery :
    Arguments.ofList ["in.sql".toList, "--explain".toList] =
        .invocation ⟨"in.sql", { explains := true }⟩ ∧
      (∃ query, Query.ofText? "\n" captionedQuery = .ok query ∧
        ∀ fragment ∈ query.fragments, ∃ before, fragment.Headed before) ∧
      explainedStatements (run ["in.sql".toList, "--explain".toList] captionedSurroundings).stdout =
        [⟨1, captionedQuery⟩] := by
  have hArguments : Arguments.ofList ["in.sql".toList, "--explain".toList] =
      .invocation ⟨"in.sql", { explains := true }⟩ := by
    decide
  obtain ⟨hHeaded, -, hRun⟩ := explanations_lossless
  refine ⟨hArguments, hHeaded _ _ (by decide), ?_⟩
  rw [hRun _ _ _ _ hArguments rfl text?_captionedSurroundings, statements_captionedQuery]

end QueryPatch.CommandLine
