import QueryPatch.Proofs.Capture.Match
import Mathlib.Data.List.Forall2

/-! # Every select is captured

What each captured statement reports, and that no line that starts with the word `select` is left
out.
-/
set_option autoImplicit false

namespace QueryPatch

section word

variable {text front behind : Text}

theorem Text.exists_of_append_eq {front' behind' : Text} (h : front ++ behind = front' ++ behind')
    (hLess : front'.length < front.length) :
    ∃ c rest, front = front' ++ c :: rest ∧ behind' = c :: rest ++ behind := by
  rcases List.append_eq_append_iff.mp h with ⟨more, hMore, -⟩ | ⟨more, hMore, hBehind⟩
  · rw [hMore, List.length_append] at hLess
    omega
  · cases more with
    | nil =>
      rw [hMore, List.append_nil] at hLess
      exact absurd hLess (Nat.lt_irrefl _)
    | cons c rest => exact ⟨c, rest, hMore, hBehind⟩

theorem Text.exists_stripEnd_append (hFront : ∀ c ∈ front, isBlank c = false) (behind : Text) :
    ∃ kept gap, stripEnd (front ++ behind) = front ++ kept ∧ behind = kept ++ gap := by
  obtain ⟨gap, hText, hGap⟩ := exists_blank_behind (front ++ behind)
  rcases List.append_eq_append_iff.mp hText with ⟨kept, hKept, hBehind⟩ | ⟨more, hMore, hRest⟩
  · exact ⟨kept, gap, hKept, hBehind⟩
  · have hEmpty : more = [] := by
      apply List.eq_nil_iff_forall_not_mem.mpr
      intro c hc
      have hBlank := hGap c (by rw [hRest]; exact List.mem_append_left _ hc)
      rw [hFront c (by rw [hMore]; exact List.mem_append_right _ hc)] at hBlank
      cases hBlank
    subst hEmpty
    rw [List.append_nil] at hMore
    exact ⟨[], gap, by rw [← hMore, List.append_nil], hRest.symm⟩

namespace Capture

/-- The word `select` stands at the start, each letter in one of its cases, and no word goes on
behind it. -/
def StartsWithSelect (text : Text) : Prop :=
  ∃ word rest, text = word ++ rest ∧ List.Forall₂ (· ∈ ·) word selectLetters ∧
    ∀ c ∈ rest.head?, Text.isWordLike c = false

theorem afterLetters?_eq_some_iff {letters : List (List Char)} {rest : Text} :
    afterLetters? letters text = some rest ↔
      ∃ word, text = word ++ rest ∧ List.Forall₂ (· ∈ ·) word letters := by
  induction letters generalizing text with
  | nil =>
    constructor
    · intro h
      exact ⟨[], Option.some.inj h, .nil⟩
    · rintro ⟨word, rfl, hWord⟩
      cases hWord
      rfl
  | cons letters more ih =>
    rw [afterLetters?_cons_eq_some_iff]
    constructor
    · rintro ⟨c, tail, rfl, hLetter, hTail⟩
      obtain ⟨word, rfl, hWord⟩ := ih.mp hTail
      exact ⟨c :: word, rfl, .cons hLetter hWord⟩
    · rintro ⟨word, rfl, hWord⟩
      cases hWord with
      | cons hLetter hMore => exact ⟨_, _, rfl, hLetter, ih.mpr ⟨_, rfl, hMore⟩⟩

theorem startsStatement_iff : startsStatement text = true ↔ StartsWithSelect text := by
  rw [startsStatement_eq_true_iff]
  constructor
  · rintro ⟨rest, hAfter, hRest⟩
    obtain ⟨word, hText, hWord⟩ := afterLetters?_eq_some_iff.mp hAfter
    exact ⟨word, rest, hText, hWord, hRest⟩
  · rintro ⟨word, rest, hText, hWord, hRest⟩
    exact ⟨rest, afterLetters?_eq_some_iff.mpr ⟨word, hText, hWord⟩, hRest⟩

theorem StartsWithSelect.append (h : StartsWithSelect text)
    (hBehind : ∀ c ∈ behind.head?, c = '\n') : StartsWithSelect (text ++ behind) := by
  obtain ⟨word, rest, rfl, hWord, hRest⟩ := h
  refine ⟨word, rest ++ behind, List.append_assoc .., hWord, fun c hc => ?_⟩
  cases rest with
  | nil =>
    rw [hBehind c hc]
    rfl
  | cons d rest => exact hRest c hc

theorem isLetter_of_forall₂ {word : Text} {letters : List (List Char)}
    (h : List.Forall₂ (· ∈ ·) word letters) (hLetters : letters ⊆ selectLetters) :
    ∀ c ∈ word, IsLetter c := by
  induction h with
  | nil => nofun
  | cons hLetter _ ih =>
    intro c hc
    rcases List.mem_cons.mp hc with rfl | hc
    · exact isLetter_of_mem (List.mem_flatten_of_mem (hLetters List.mem_cons_self) hLetter)
    · exact ih (fun _ hMem => hLetters (List.mem_cons_of_mem _ hMem)) c hc

/-- The word ends before any semicolon. -/
theorem StartsWithSelect.of_semicolon (h : StartsWithSelect (front ++ ';' :: behind)) :
    StartsWithSelect front := by
  obtain ⟨word, rest, hText, hWord, hRest⟩ := h
  have hLetters := isLetter_of_forall₂ hWord (List.Subset.refl _)
  rcases List.append_eq_append_iff.mp hText with ⟨more, rfl, hMore⟩ | ⟨more, rfl, rfl⟩
  · cases more with
    | nil =>
      rw [List.append_nil] at hWord
      exact ⟨front, [], (List.append_nil _).symm, hWord, nofun⟩
    | cons c more =>
      obtain rfl : ';' = c := (List.cons.inj hMore).1
      exact absurd rfl (hLetters ';' (by simp)).ne_semicolon
  · refine ⟨word, more, rfl, hWord, fun c hc => hRest c ?_⟩
    rw [List.head?_append, Option.mem_def.mp hc]
    rfl

theorem StartsWithSelect.stripEnd_before (h : StartsWithSelect text) :
    StartsWithSelect (Text.stripEnd (before text (fromTerminator text))) := by
  obtain ⟨word, rest, rfl, hWord, hRest⟩ := h
  have hLetters := isLetter_of_forall₂ hWord (List.Subset.refl _)
  have hSuffix := fromTerminator_suffix rest
  obtain ⟨kept, gap, hKept, hBehind⟩ := Text.exists_stripEnd_append
    (fun c hc => (hLetters c hc).not_blank) (before rest (fromTerminator rest))
  refine ⟨word, kept, ?_, hWord, fun c hc => hRest c ?_⟩
  · rw [fromTerminator_append fun c hc => ⟨(hLetters c hc).ne_semicolon, (hLetters c hc).ne_quote⟩,
      before_append_of_suffix word hSuffix, hKept]
  · rw [← before_append_self hSuffix, hBehind, List.append_assoc, List.head?_append,
      Option.mem_def.mp hc]
    rfl

end Capture

end word

open Capture Pattern

namespace Position

variable {position later : Position}

theorem isLineStart_iff : position.isLineStart = true ↔ ∀ c ∈ position.passed.head?, c = '\n' := by
  rw [isLineStart]
  cases position.passed.head? <;> simp

/-- Up to a later start of a line there is the end of a line. -/
theorem exists_between_lineStart (hContent : later.content = position.content)
    (h : position.offset < later.offset) (hLine : later.isLineStart = true) :
    ∃ between, position.left = between ++ '\n' :: later.left ∧
      later.passed = '\n' :: (between.reverse ++ position.passed) := by
  obtain ⟨between, hLeft, hPassed⟩ := exists_between hContent h.le
  rcases List.eq_nil_or_concat between with rfl | ⟨between, c, rfl⟩
  · have hSame := congrArg List.length hPassed
    exact absurd hSame h.ne'
  · rw [List.concat_eq_append, List.append_assoc] at hLeft
    rw [List.concat_eq_append, List.reverse_append] at hPassed
    have hHead := isLineStart_iff.mp hLine c (by rw [hPassed]; rfl)
    subst hHead
    exact ⟨between, hLeft, hPassed⟩

theorem count_newline_lt (hContent : later.content = position.content)
    (h : position.offset < later.offset) (hLine : later.isLineStart = true) :
    position.passed.count '\n' < later.passed.count '\n' := by
  obtain ⟨between, -, hPassed⟩ := exists_between_lineStart hContent h hLine
  rw [hPassed, List.count_cons_self, List.count_append]
  omega

end Position

namespace Capture

/-- What a match reports of the content: from the start of a line on, up to a semicolon or the end
of the content. -/
structure Captures (content : Text) (found : Match) (prior captured rest : Text) : Prop where
  content_eq : content = prior ++ captured ++ rest
  lineStart : ∀ c ∈ prior.getLast?, c = '\n'
  rest_eq : rest = fromTerminator (captured ++ rest)
  stops : ∀ c ∈ rest.head?, c = ';'
  line_eq : found.statement.line = 1 + prior.count '\n'
  text_eq : found.statement.text = Text.stripEnd captured
  startsWithSelect : StartsWithSelect found.statement.text
  start_eq : found.start.offset = prior.length
  wanted_eq : found.wanted.offset = (prior ++ captured).length
  finish_eq : found.finish.offset = (prior ++ captured ++ rest.take 1).length

theorem exists_captures {start : Position} (h : start.Opens) :
    ∃ prior captured rest, Captures start.content (.of start) prior captured rest := by
  have hCaptured := before_append_self (fromTerminator_suffix start.left)
  have hWanted : (Match.of start).wanted.offset =
      (start.passed.reverse ++ before start.left (fromTerminator start.left)).length := by
    rw [Match.of, Position.offset, Position.advance, ← List.length_reverse, List.reverse_append,
      List.reverse_reverse]
  refine ⟨start.passed.reverse, before start.left (fromTerminator start.left),
    fromTerminator start.left, ?_, ?_, ?_, Match.head?_left_wanted start, ?_, rfl, ?_, ?_, hWanted,
    ?_⟩
  · rw [List.append_assoc, hCaptured, Position.content]
  · rw [List.getLast?_reverse]
    exact Position.isLineStart_iff.mp h.isLineStart
  · rw [hCaptured]
  · rw [List.count_reverse, Nat.add_comm]
    rfl
  · exact (startsStatement_iff.mp h.startsStatement).stripEnd_before
  · rw [List.length_reverse]
    rfl
  · rw [Match.offset_finish, hWanted]
    exact List.length_append.symm

/-- `line` is a line of the content, without the newlines around it. -/
structure IsLine (content prior line rest : Text) : Prop where
  content_eq : content = prior ++ line ++ rest
  starts : ∀ c ∈ prior.getLast?, c = '\n'
  not_mem : '\n' ∉ line
  ends : ∀ c ∈ rest.head?, c = '\n'

namespace IsLine

variable {content prior line rest : Text} {later : Position}

def place (prior line rest : Text) : Position := ⟨prior.reverse, line ++ rest⟩

theorem content_place (h : IsLine content prior line rest) :
    (place prior line rest).content = content := by
  rw [h.content_eq, Position.content, place, List.reverse_reverse, List.append_assoc]

theorem offset_place (prior line rest : Text) : (place prior line rest).offset = prior.length :=
  List.length_reverse

theorem opens (h : IsLine content prior line rest) (hSelect : StartsWithSelect line) :
    (place prior line rest).Opens where
  isLineStart := by
    rw [Position.isLineStart_iff, place, List.head?_reverse]
    exact h.starts
  startsStatement := startsStatement_iff.mpr (hSelect.append h.ends)

/-- No other line starts on this one. -/
theorem length_lt_offset (h : IsLine content prior line rest) (hContent : later.content = content)
    (hOffset : prior.length < later.offset) (hLine : later.isLineStart = true) :
    prior.length + line.length < later.offset := by
  rw [← h.content_place] at hContent
  obtain ⟨between, hLeft, hPassed⟩ := Position.exists_between_lineStart hContent
    (by rwa [offset_place]) hLine
  have hLater : later.offset = prior.length + (between ++ ['\n']).length := by
    rw [← offset_place prior line rest]
    exact Position.offset_of_passed (by rw [hPassed, List.reverse_append]; rfl)
  rw [List.length_append, List.length_singleton] at hLater
  by_contra hInside
  obtain ⟨c, more, hMore, hRest⟩ := Text.exists_of_append_eq hLeft (by omega)
  obtain rfl : '\n' = c := (List.cons.inj hRest).1
  refine h.not_mem ?_
  rw [hMore]
  exact List.mem_append_right _ List.mem_cons_self

/-- What stops behind the start of the line, if at all at a semicolon, has the whole line before it
or stops at a semicolon of the line. -/
theorem length_le_or_exists_semicolon (h : IsLine content prior line rest)
    (hContent : later.content = content) (hOffset : prior.length ≤ later.offset)
    (hStops : ∀ c ∈ later.left.head?, c = ';') :
    prior.length + line.length ≤ later.offset ∨
      ∃ covered remainder, line = covered ++ ';' :: remainder ∧
        later.left = ';' :: remainder ++ rest ∧
        later.offset = prior.length + covered.length := by
  rw [← h.content_place] at hContent
  obtain ⟨between, hLeft, hPassed⟩ := Position.exists_between hContent (by rwa [offset_place])
  have hLater : later.offset = prior.length + between.length := by
    rw [Position.offset_of_passed hPassed, offset_place]
  by_cases hInside : between.length < line.length
  · obtain ⟨c, remainder, hLine, hRest⟩ := Text.exists_of_append_eq hLeft hInside
    obtain rfl : c = ';' := hStops c (by rw [hRest]; rfl)
    exact .inr ⟨between, remainder, hLine, hRest, hLater⟩
  · left
    omega

end IsLine

/-- For any content: the statements are those of matches that are disjoint and in order; each is the
text from the start of the line that is reported, with `select` at its start, up to the semicolon
that ends it or the end of the content, and stripped at the end; each is reported further down than
those before. Every line that starts with the word `select` is inside one match, with the word and
all behind it, to the end of the line or to the semicolon of the line at which the match ends, and
nothing of the line is in any other match. -/
theorem statements_cover (content : Text) :
    let hits := findAll statement closing (.atStart content)
    Capture.statements content = hits.map Match.statement ∧
      (∀ found ∈ hits, ∃ prior captured rest, Captures content found prior captured rest) ∧
      hits.Pairwise (fun earlier later => earlier.finish.offset ≤ later.start.offset ∧
        earlier.statement.line < later.statement.line) ∧
      ∀ prior line rest, IsLine content prior line rest → StartsWithSelect line →
        ∃ earlier found later, hits = earlier ++ found :: later ∧
          found.start.offset ≤ prior.length ∧
          (prior.length + line.length ≤ found.wanted.offset ∨
            ∃ covered remainder, line = covered ++ ';' :: remainder ∧ StartsWithSelect covered ∧
              found.wanted.offset = prior.length + covered.length ∧
              found.finish.offset = prior.length + (covered ++ [';']).length) ∧
          (∀ other ∈ earlier, other.finish.offset ≤ prior.length) ∧
          ∀ other ∈ later, prior.length + line.length < other.start.offset := by
  intro hits
  have hSearched : Searched (.atStart content) hits := searched_findAll _
  have hMatch : ∀ found ∈ hits, ∃ start, found = .of start ∧ start.Opens ∧
      start.content = content := by
    intro found hFound
    obtain ⟨start, rfl, hOpens, hContent, -⟩ := hSearched.exists_of_mem hFound
    exact ⟨start, rfl, hOpens, hContent⟩
  refine ⟨(map_statement_findAll content).symm, fun found hFound => ?_, ?_, ?_⟩
  · obtain ⟨start, rfl, hOpens, rfl⟩ := hMatch found hFound
    exact exists_captures hOpens
  · refine hSearched.pairwise.imp_of_mem fun hEarlier hLater hOrder => ⟨hOrder, ?_⟩
    obtain ⟨start, rfl, hOpens, hContent⟩ := hMatch _ hEarlier
    obtain ⟨start', rfl, hOpens', hContent'⟩ := hMatch _ hLater
    apply Nat.succ_lt_succ
    exact Position.count_newline_lt (hContent'.trans hContent.symm)
      ((Match.offset_lt_finish hOpens.left_ne_nil).trans_le hOrder) hOpens'.isLineStart
  · intro prior line rest hLine hSelect
    obtain ⟨earlier, found, later, hHits, hStart, hFinish, hEarlier⟩ :=
      hSearched.exists_around (hLine.opens hSelect) hLine.content_place (Nat.zero_le _)
    rw [IsLine.offset_place] at hStart hFinish hEarlier
    obtain ⟨start, rfl, hOpens, hContent⟩ := hMatch found (by rw [hHits]; simp)
    refine ⟨earlier, _, later, hHits, hStart, ?_, hEarlier, fun other hOther => ?_⟩
    · have hWanted : prior.length ≤ (Match.of start).wanted.offset := by
        have hOne := List.length_take_le 1 (Match.of start).wanted.left
        rw [Match.offset_finish] at hFinish
        omega
      refine (hLine.length_le_or_exists_semicolon ((Match.content_wanted_of start).trans hContent)
        hWanted (Match.head?_left_wanted start)).imp_right ?_
      rintro ⟨covered, remainder, rfl, hLeft, hOffset⟩
      refine ⟨covered, remainder, rfl, hSelect.of_semicolon, hOffset, ?_⟩
      rw [Match.offset_finish, hLeft, hOffset, List.length_append, Nat.add_assoc]
      rfl
    · have hOrder := hSearched.pairwise
      rw [hHits, List.pairwise_append, List.pairwise_cons] at hOrder
      obtain ⟨start', rfl, hOpens', hContent'⟩ := hMatch other (by rw [hHits]; simp [hOther])
      exact hLine.length_lt_offset hContent' (hFinish.trans_le (hOrder.2.1.1 _ hOther))
        hOpens'.isLineStart

/-- A quote that is never closed, a terminator, and then one more statement. -/
def quoteBeforeSelect : Text := "it's\nSELECT 'a;\n".toList

theorem statements_cover_quoteBeforeSelect :
    IsLine (quoteBeforeSelect ++ "select 1".toList) quoteBeforeSelect "select 1".toList [] ∧
      StartsWithSelect "select 1".toList ∧
      ∃ found ∈ findAll statement closing (.atStart (quoteBeforeSelect ++ "select 1".toList)),
        found.start.offset ≤ 16 ∧ 24 ≤ found.wanted.offset := by
  have hLine : IsLine (quoteBeforeSelect ++ "select 1".toList) quoteBeforeSelect
      "select 1".toList [] := by
    refine ⟨(List.append_nil _).symm, ?_, by decide, nofun⟩
    rintro c ⟨⟩
    rfl
  have hSelect : StartsWithSelect "select 1".toList := startsStatement_iff.mp (by decide)
  obtain ⟨-, -, -, hCover⟩ := statements_cover (quoteBeforeSelect ++ "select 1".toList)
  obtain ⟨earlier, found, later, hHits, hStart, hWanted, -, -⟩ := hCover _ _ _ hLine hSelect
  refine ⟨hLine, hSelect, found, ?_, hStart, ?_⟩
  · rw [hHits]
    exact List.mem_append_right _ List.mem_cons_self
  · rcases hWanted with hWhole | ⟨covered, remainder, hCovered, -⟩
    · exact hWhole
    · have hNone : ';' ∉ "select 1".toList := by decide
      refine absurd ?_ hNone
      rw [hCovered]
      exact List.mem_append_right _ List.mem_cons_self

/-- A statement that ends within its line. -/
def semicolonInLine : Text := "select 1; x".toList

theorem fromTerminator_semicolonInLine : fromTerminator semicolonInLine = "; x".toList := by
  have hText : semicolonInLine = "select 1".toList ++ "; x".toList := rfl
  rw [hText, fromTerminator_append_of_all rfl]
  exact fromTerminator_semicolon _

/-- What stands behind the semicolon is in no match, so no match has the whole line. -/
theorem semicolonInLine_not_whole :
    IsLine semicolonInLine [] semicolonInLine [] ∧ StartsWithSelect semicolonInLine ∧
      ∀ found ∈ findAll statement closing (.atStart semicolonInLine),
        ¬ (found.start.offset ≤ 0 ∧ semicolonInLine.length ≤ found.finish.offset) := by
  refine ⟨⟨(List.append_nil _).symm, nofun, by decide, nofun⟩,
    startsStatement_iff.mp (by decide), ?_⟩
  rintro found hFound ⟨hStart, hWhole⟩
  obtain ⟨start, rfl, -, hContent, -⟩ := (searched_findAll _).exists_of_mem hFound
  obtain rfl := Position.eq_of_offset_eq hContent.symm (Nat.le_zero.mp hStart)
  have hFinish : (Match.of (.atStart semicolonInLine)).finish.offset = 9 := by
    rw [Match.of, Position.atStart, fromTerminator_semicolonInLine]
    rfl
  rw [hFinish] at hWhole
  exact absurd hWhole (by decide)

end Capture

end QueryPatch
