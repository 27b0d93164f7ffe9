import QueryPatch.Proofs.Capture.Pattern

/-! # The search for statements

A match is known from where it starts. A search goes on behind each match, so its matches stand one
after the other and leave out no place where a statement starts.
-/
set_option autoImplicit false

namespace QueryPatch

open Capture

namespace Position

variable {position later : Position} {left : Text}

def offset (position : Position) : Nat := position.passed.length

/-- The text that this is a position in. -/
def content (position : Position) : Text := position.passed.reverse ++ position.left

theorem offset_add_length (position : Position) :
    position.offset + position.left.length = position.content.length := by
  rw [content, List.length_append, List.length_reverse, offset]

theorem exists_between (hContent : later.content = position.content)
    (h : position.offset ≤ later.offset) :
    ∃ between, position.left = between ++ later.left ∧
      later.passed = between.reverse ++ position.passed := by
  have hLength (text : Text) : text.reverse.length = text.length := List.length_reverse
  rcases List.append_eq_append_iff.mp hContent with
    ⟨between, hPassed, hLeft⟩ | ⟨between, hPassed, hLeft⟩
  · have hEmpty := congrArg List.length hPassed
    rw [List.length_append, hLength, hLength] at hEmpty
    obtain rfl : between = [] := List.length_eq_zero_iff.mp (by unfold offset at h; omega)
    rw [List.append_nil, List.reverse_inj] at hPassed
    exact ⟨[], hLeft.symm, hPassed.symm⟩
  · refine ⟨between, hLeft, ?_⟩
    rw [← List.reverse_inj, hPassed, List.reverse_append, List.reverse_reverse]

theorem offset_of_passed {between : Text} (h : later.passed = between.reverse ++ position.passed) :
    later.offset = position.offset + between.length := by
  rw [offset, h, List.length_append, List.length_reverse, offset, Nat.add_comm]

theorem eq_of_offset_eq (hContent : later.content = position.content)
    (h : position.offset = later.offset) : later = position := by
  obtain ⟨between, hLeft, hPassed⟩ := exists_between hContent h.le
  have hOffset := offset_of_passed hPassed
  obtain rfl : between = [] := List.length_eq_zero_iff.mp (by omega)
  obtain ⟨passed, left⟩ := position
  obtain ⟨passed', left'⟩ := later
  exact congrArg₂ Position.mk hPassed hLeft.symm

theorem content_advance (h : left <:+ position.left) :
    (position.advance left).content = position.content := by
  obtain ⟨passed, whole⟩ := position
  obtain ⟨consumed, rfl⟩ := h
  rw [advance_append, content, content, List.reverse_append, List.reverse_reverse,
    List.append_assoc]

structure Opens (position : Position) : Prop where
  isLineStart : position.isLineStart = true
  startsStatement : startsStatement position.left = true

theorem Opens.left_ne_nil (h : position.Opens) : position.left ≠ [] := by
  intro hNil
  have hStart := h.startsStatement
  rw [hNil] at hStart
  cases hStart

end Position

namespace Pattern

/-- The match of the statement that starts here. -/
def Match.of (start : Position) : Match :=
  ⟨start, start.advance (fromTerminator start.left),
    start.advance (fromTerminator start.left).tail⟩

theorem find?_eq_some_iff {position : Position} {found : Match} :
    find? statement closing position = some found ↔ position.Opens ∧ found = .of position := by
  rw [find?_eq]
  constructor
  · intro h
    split at h
    · rename_i hStart
      obtain ⟨hLine, hWord⟩ := Bool.and_eq_true_iff.mp hStart
      exact ⟨⟨hLine, hWord⟩, (Option.some.inj h).symm⟩
    · cases h
  · rintro ⟨⟨hLine, hWord⟩, rfl⟩
    rw [if_pos (by rw [hLine, hWord]; rfl), Match.of]

theorem Match.content_wanted_of (start : Position) :
    (Match.of start).wanted.content = start.content :=
  Position.content_advance (fromTerminator_suffix start.left)

theorem Match.content_finish_of (start : Position) :
    (Match.of start).finish.content = start.content :=
  Position.content_advance ((List.tail_suffix _).trans (fromTerminator_suffix start.left))

theorem Match.length_finish_of_lt {start : Position} (h : start.left ≠ []) :
    (Match.of start).finish.left.length < start.left.length := by
  have hLength := (fromTerminator_suffix start.left).length_le
  have hPositive := List.length_pos_iff.mpr h
  change (fromTerminator start.left).tail.length < start.left.length
  rw [List.length_tail]
  omega

theorem Match.offset_lt_finish {start : Position} (h : start.left ≠ []) :
    start.offset < (Match.of start).finish.offset := by
  have hStart := start.offset_add_length
  have hFinish := (Match.of start).finish.offset_add_length
  have hLess := Match.length_finish_of_lt h
  rw [Match.content_finish_of] at hFinish
  omega

/-- Only the semicolon is left to match behind what is wanted. -/
theorem Match.offset_finish (start : Position) :
    (Match.of start).finish.offset =
      (Match.of start).wanted.offset + ((Match.of start).wanted.left.take 1).length := by
  have hWanted := (Match.of start).wanted.offset_add_length
  have hFinish := (Match.of start).finish.offset_add_length
  have hTail : (Match.of start).finish.left.length = (Match.of start).wanted.left.length - 1 :=
    List.length_tail
  rw [Match.content_wanted_of] at hWanted
  rw [Match.content_finish_of] at hFinish
  rw [List.length_take]
  omega

theorem Match.head?_left_wanted (start : Position) :
    ∀ c ∈ (Match.of start).wanted.left.head?, c = ';' := by
  intro c hc
  change c ∈ (fromTerminator start.left).head? at hc
  rcases fromTerminator_eq_nil_or start.left with hStop | ⟨after, hStop⟩
  · rw [hStop] at hc
    cases hc
  · rw [hStop] at hc
    exact (Option.some.inj hc).symm

/-- From a position on, these are the matches that are found. -/
inductive Searched : Position → List Match → Prop
  | done (passed : Text) : Searched ⟨passed, []⟩ []
  | skip {passed rest : Text} {c : Char} {hits : List Match} :
      ¬Position.Opens ⟨passed, c :: rest⟩ → Searched ⟨c :: passed, rest⟩ hits →
      Searched ⟨passed, c :: rest⟩ hits
  | found {position : Position} {hits : List Match} :
      position.Opens → Searched (Match.of position).finish hits →
      Searched position (.of position :: hits)

theorem searched_findAll (position : Position) :
    Searched position (findAll statement closing position) := by
  fun_induction findAll statement closing position with
  | case1 position first hFirst _ ih =>
    obtain ⟨hOpens, rfl⟩ := find?_eq_some_iff.mp hFirst
    exact .found hOpens ih
  | case2 position first hFirst hLess =>
    obtain ⟨hOpens, rfl⟩ := find?_eq_some_iff.mp hFirst
    exact absurd (Match.length_finish_of_lt hOpens.left_ne_nil) hLess
  | case3 position _ hLeft =>
    obtain ⟨passed, left⟩ := position
    obtain rfl : left = [] := hLeft
    exact .done passed
  | case4 position hNone c rest hLeft ih =>
    obtain ⟨passed, left⟩ := position
    obtain rfl : left = c :: rest := hLeft
    refine .skip (fun hOpens => ?_) ih
    cases hNone.symm.trans (find?_eq_some_iff.mpr ⟨hOpens, rfl⟩)

theorem map_statement_findAll (content : Text) :
    (findAll statement closing (.atStart content)).map Match.statement =
      Capture.statements content :=
  findAll_eq (.atStart content)

namespace Searched

variable {position place : Position} {hits : List Match} {found : Match}

theorem exists_of_mem (h : Searched position hits) (hMem : found ∈ hits) :
    ∃ start, found = .of start ∧ start.Opens ∧ start.content = position.content ∧
      position.offset ≤ start.offset := by
  induction h with
  | done => cases hMem
  | skip _ _ ih =>
    obtain ⟨start, hFound, hOpens, hContent, hOffset⟩ := ih hMem
    refine ⟨start, hFound, hOpens, ?_, (Nat.le_succ _).trans hOffset⟩
    rw [hContent, Position.content, Position.content, List.reverse_cons, List.append_assoc]
    rfl
  | @found position hits hOpens _ ih =>
    rcases List.mem_cons.mp hMem with rfl | hLater
    · exact ⟨position, rfl, hOpens, rfl, le_rfl⟩
    · obtain ⟨start, hFound, hStart, hContent, hOffset⟩ := ih hLater
      exact ⟨start, hFound, hStart, hContent.trans (Match.content_finish_of position),
        (Match.offset_lt_finish hOpens.left_ne_nil).le.trans hOffset⟩

/-- The matches are disjoint and in order. -/
theorem pairwise (h : Searched position hits) :
    hits.Pairwise fun earlier later => earlier.finish.offset ≤ later.start.offset := by
  induction h with
  | done => exact .nil
  | skip _ _ ih => exact ih
  | found _ hRest ih =>
    refine .cons (fun later hLater => ?_) ih
    obtain ⟨start, rfl, -, -, hOffset⟩ := hRest.exists_of_mem hLater
    exact hOffset

/-- Wherever a statement starts the search has a match: from there on, or around it. -/
theorem exists_around (h : Searched position hits) (hPlace : place.Opens)
    (hContent : place.content = position.content) (hOffset : position.offset ≤ place.offset) :
    ∃ earlier found later, hits = earlier ++ found :: later ∧
      found.start.offset ≤ place.offset ∧ place.offset < found.finish.offset ∧
      ∀ other ∈ earlier, other.finish.offset ≤ place.offset := by
  -- the search does not get beyond the place except by a match that has it inside
  induction h with
  | done passed =>
    have hLength := place.offset_add_length
    have hDone := Position.offset_add_length ⟨passed, []⟩
    rw [hContent] at hLength
    refine absurd (List.length_eq_zero_iff.mp ?_) hPlace.left_ne_nil
    simp only [List.length_nil] at hDone
    omega
  | @skip passed rest c hits hSkip _ ih =>
    have hNext : Position.offset ⟨c :: passed, rest⟩ =
        Position.offset ⟨passed, c :: rest⟩ + 1 := rfl
    refine ih (hContent.trans ?_) ?_
    · simp [Position.content]
    · rw [hNext]
      refine Nat.lt_of_le_of_ne hOffset fun hSame => hSkip ?_
      rwa [← Position.eq_of_offset_eq hContent hSame]
  | @found position hits _ _ ih =>
    by_cases hInside : place.offset < (Match.of position).finish.offset
    · exact ⟨[], _, hits, rfl, hOffset, hInside, nofun⟩
    · obtain ⟨earlier, found, later, rfl, hStart, hFinish, hEarlier⟩ :=
        ih (hContent.trans (Match.content_finish_of position).symm) (Nat.le_of_not_lt hInside)
      refine ⟨_ :: earlier, found, later, rfl, hStart, hFinish, fun other hOther => ?_⟩
      rcases List.mem_cons.mp hOther with rfl | hOther
      · exact Nat.le_of_not_lt hInside
      · exact hEarlier other hOther

end Searched

end Pattern

end QueryPatch
