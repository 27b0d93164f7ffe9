import QueryPatch.Capture.Pattern
import QueryPatch.Proofs.Capture.Scan

/-! # The pattern and the scanner

The scanner finds what the pattern finds. The rounds of the body never have to be taken back, since
from every position on the rest of a statement can be matched; only the inside of a literal gives
back what it took, up to the first quote of its last pair.
-/
set_option autoImplicit false

namespace QueryPatch

open Capture

namespace Position

/-- The position at which `left` is left. -/
def advance (position : Position) (left : Text) : Position :=
  ⟨(before position.left left).reverse ++ position.passed, left⟩

@[simp] theorem left_advance (position : Position) (left : Text) :
    (position.advance left).left = left := rfl

theorem advance_append (passed consumed left : Text) :
    (⟨passed, consumed ++ left⟩ : Position).advance left = ⟨consumed.reverse ++ passed, left⟩ := by
  rw [advance, before_append]

theorem advance_self (passed left : Text) :
    (⟨passed, left⟩ : Position).advance left = ⟨passed, left⟩ :=
  advance_append passed [] left

theorem advance_rest (passed : Text) (c : Char) (rest : Text) :
    (⟨passed, c :: rest⟩ : Position).advance rest = ⟨c :: passed, rest⟩ :=
  advance_append passed [c] rest

theorem advance_advance {position : Position} {between left : Text} (h : left <:+ between)
    (hBetween : between <:+ position.left) :
    (position.advance between).advance left = position.advance left := by
  obtain ⟨passed, whole⟩ := position
  obtain ⟨first, rfl⟩ := hBetween
  obtain ⟨second, rfl⟩ := h
  have hBoth := advance_append passed (first ++ second) left
  rw [List.append_assoc, List.reverse_append, List.append_assoc] at hBoth
  rw [advance_append, advance_append, hBoth]

theorem advance_cons {passed rest left : Text} (c : Char) (h : left <:+ rest) :
    (⟨c :: passed, rest⟩ : Position).advance left =
      (⟨passed, c :: rest⟩ : Position).advance left := by
  rw [← advance_rest, advance_advance h (List.suffix_cons c rest)]

end Position

namespace Pattern

variable {α : Type} {position : Position} {next : Position → Option α} {passed rest : Text}
  {c : Char}

section run

variable (first second body : Pattern) (accepts : Char → Bool) (holds : Position → Bool)

theorem run_one_nil : (one accepts).run ⟨passed, []⟩ next = none := rfl

theorem run_one_cons : (one accepts).run ⟨passed, c :: rest⟩ next =
    if accepts c then next ⟨c :: passed, rest⟩ else none := rfl

theorem run_look : (look holds).run position next =
    if holds position then next position else none := rfl

theorem run_sequence : (sequence first second).run position next =
    first.run position fun reached => second.run reached next := rfl

theorem run_choice : (choice first second).run position next =
    (first.run position next).or (second.run position next) := by
  simp [run]

theorem run_many : (many body).run position next =
    (body.run position fun reached =>
      if reached.left.length < position.left.length then (many body).run reached next
      else none).or (next position) := by
  rw [run, rounds]
  simp [run]

end run

theorem run_quote_self : quote.run ⟨passed, '\'' :: rest⟩ next = next ⟨'\'' :: passed, rest⟩ := rfl

theorem run_quote_other (h : ∀ tail, position.left ≠ '\'' :: tail) :
    quote.run position next = none := by
  obtain ⟨passed, left⟩ := position
  cases left with
  | nil => rfl
  | cons c rest =>
    rw [quote, run_one_cons, if_neg]
    simpa using fun hc : c = '\'' => h rest (by rw [hc])

section literal

theorem run_literalPart_nil : literalPart.run ⟨passed, []⟩ next = none := rfl

theorem run_literalPart_pair : literalPart.run ⟨passed, '\'' :: '\'' :: rest⟩ next =
    next ⟨'\'' :: '\'' :: passed, rest⟩ := rfl

theorem run_literalPart_quote (h : rest.head? ≠ some '\'') :
    literalPart.run ⟨passed, '\'' :: rest⟩ next = none := by
  rw [literalPart, run_choice, run_one_cons, if_neg (by decide), Option.none_or, run_sequence,
    run_quote_self]
  apply run_quote_other
  rintro tail (rfl : rest = _)
  exact h rfl

theorem run_literalPart_other (h : c ≠ '\'') :
    literalPart.run ⟨passed, c :: rest⟩ next = next ⟨c :: passed, rest⟩ := by
  rw [literalPart, run_choice, run_one_cons, if_pos (by simpa using h), run_sequence,
    run_quote_other fun tail hc => h (by injection hc)]
  cases next ⟨c :: passed, rest⟩ <;> rfl

/-- After an opening quote, if every way of going on after the literal succeeds: the literal ends
at the first quote without a pair, and failing that inside the last pair. -/
theorem run_literal_end (next : Position → Option α) (found : Position → α) (text passed : Text)
    (hNext : ∀ reached : Position, reached.left.length < text.length →
      next reached = some (found reached)) :
    (many literalPart).run ⟨passed, text⟩ (fun reached => quote.run reached next) =
      (afterLiteral? text).map fun left => found ((⟨passed, text⟩ : Position).advance left) := by
  induction text using quotes_induction generalizing passed with
  | nil =>
    rw [run_many, run_literalPart_nil]
    rfl
  | pair rest ih =>
    have hRest := ih ('\'' :: '\'' :: passed) fun reached h =>
      hNext reached (by simp only [List.length_cons]; omega)
    have hHere := hNext ⟨'\'' :: passed, '\'' :: rest⟩ (by simp)
    rw [run_many, run_literalPart_pair, if_pos (by simp only [List.length_cons]; omega), hRest,
      run_quote_self, hHere, afterLiteral?_pair]
    cases hLiteral : afterLiteral? rest with
    | none =>
      rw [Option.map_none, Option.none_or, Option.none_or, Option.map_some, Position.advance_rest]
    | some left =>
      have hLeft := (List.suffix_cons _ _).trans (suffix_of_afterLiteral? hLiteral)
      rw [Option.map_some, Option.some_or, Option.some_or, Option.map_some,
        Position.advance_cons _ hLeft,
        Position.advance_cons _ (hLeft.trans (List.suffix_cons _ _))]
  | quote rest hHead =>
    rw [run_many, run_literalPart_quote hHead, Option.none_or, run_quote_self, hNext _ (by simp),
      afterLiteral?_quote hHead, Option.map_some, Position.advance_rest]
  | other c rest hOther ih =>
    have hRest := ih (c :: passed) fun reached h => hNext reached
      (by simp only [List.length_cons]; omega)
    rw [run_many, run_literalPart_other hOther, if_pos (by simp), hRest,
      run_quote_other (fun tail h => hOther (List.cons.inj h).1), Option.or_none,
      afterLiteral?_other hOther]
    cases hLiteral : afterLiteral? rest with
    | none => rfl
    | some left =>
      have hLeft := (List.suffix_cons _ _).trans (suffix_of_afterLiteral? hLiteral)
      rw [Option.map_some, Option.map_some, Position.advance_cons _ hLeft]

end literal

section body

theorem run_bodyPart_nil : bodyPart.run ⟨passed, []⟩ next = none := rfl

theorem run_literal_quote : literal.run ⟨passed, '\'' :: rest⟩ next =
    (many literalPart).run ⟨'\'' :: passed, rest⟩ fun reached => quote.run reached next := rfl

theorem run_literal_other (h : c ≠ '\'') : literal.run ⟨passed, c :: rest⟩ next = none := by
  rw [literal, run_sequence]
  exact run_quote_other fun tail hc => h (List.cons.inj hc).1

theorem run_bodyPart_semicolon : bodyPart.run ⟨passed, ';' :: rest⟩ next = none := by
  rw [bodyPart, run_choice, run_literal_other (by decide)]
  rfl

theorem run_bodyPart_quote : bodyPart.run ⟨passed, '\'' :: rest⟩ next =
    (literal.run ⟨passed, '\'' :: rest⟩ next).or (next ⟨'\'' :: passed, rest⟩) := by
  rw [bodyPart, run_choice, run_choice, run_one_cons, if_neg (by decide), Option.none_or,
    run_quote_self]

theorem run_bodyPart_other (hSemicolon : c ≠ ';') (hQuote : c ≠ '\'') :
    bodyPart.run ⟨passed, c :: rest⟩ next = next ⟨c :: passed, rest⟩ := by
  rw [bodyPart, run_choice, run_literal_other hQuote, Option.none_or, run_choice, run_one_cons,
    if_pos (by simp [hSemicolon, hQuote]),
    run_quote_other fun tail hc => hQuote (List.cons.inj hc).1, Option.or_none]

/-- No round is taken back: the first way through the body that `next` accepts after it stops where
the scanner stops. -/
theorem run_body (found : Position → α)
    (hNext : ∀ reached : Position, (∀ c ∈ reached.left.head?, c = ';') →
      next reached = some (found reached)) (text passed : Text) :
    body.run ⟨passed, text⟩ next =
      some (found ((⟨passed, text⟩ : Position).advance (fromTerminator text))) := by
  change (many bodyPart).run _ _ = _
  induction h : text.length using Nat.strongRecOn generalizing text passed with
  | ind length ih =>
    subst h
    have hLater (reached : Position) (h : reached.left.length < text.length) :
        (many bodyPart).run reached next =
          some (found (reached.advance (fromTerminator reached.left))) :=
      ih _ h reached.left reached.passed rfl
    rw [run_many]
    cases text with
    | nil =>
      rw [run_bodyPart_nil, Option.none_or, hNext _ (by simp), fromTerminator_nil,
        Position.advance_self]
    | cons c rest =>
      have hShorter : rest.length < (c :: rest).length := by simp
      by_cases hSemicolon : c = ';'
      · subst hSemicolon
        rw [run_bodyPart_semicolon, Option.none_or, hNext _ (by simp), fromTerminator_semicolon,
          Position.advance_self]
      by_cases hQuote : c = '\''
      · subst hQuote
        have hLiteral := run_literal_end
          (fun reached => if reached.left.length < ('\'' :: rest).length then
            (many bodyPart).run reached next else none)
          (fun reached => found (reached.advance (fromTerminator reached.left)))
          rest ('\'' :: passed) fun reached h => by
            rw [if_pos (Nat.lt_trans h hShorter), hLater _ (Nat.lt_trans h hShorter)]
        rw [run_bodyPart_quote, run_literal_quote, hLiteral, if_pos hShorter, hLater _ hShorter,
          fromTerminator_quote, afterQuote_eq]
        cases hEnd : afterLiteral? rest with
        | none =>
          rw [Option.map_none, Option.none_or, Option.some_or, Option.getD_none,
            Position.advance_cons _ (fromTerminator_suffix rest)]
        | some left =>
          have hLeft := (List.suffix_cons _ _).trans (suffix_of_afterLiteral? hEnd)
          have hStop := fromTerminator_suffix left
          rw [Option.map_some, Option.some_or, Option.some_or, Option.getD_some,
            Position.left_advance, Position.advance_advance hStop hLeft,
            Position.advance_cons _ (hStop.trans hLeft)]
      · rw [run_bodyPart_other hSemicolon hQuote, if_pos hShorter, hLater _ hShorter,
          Option.some_or, fromTerminator_other hSemicolon hQuote,
          Position.advance_cons _ (fromTerminator_suffix rest)]

end body

section statement

theorem run_word (rest : Pattern) (letters : List (List Char)) (text passed : Text) :
    (word rest letters).run ⟨passed, text⟩ next =
      (afterLetters? letters text).bind fun left =>
        rest.run ((⟨passed, text⟩ : Position).advance left) next := by
  fun_induction afterLetters? letters text generalizing passed with
  | case1 text => rw [word, Option.bind_some, Position.advance_self]
  | case2 => rfl
  | case3 letters more c tail hLetter ih =>
    rw [word, run_sequence, run_one_cons, if_pos hLetter, ih]
    cases hTail : afterLetters? more tail with
    | none => rfl
    | some left =>
      obtain ⟨word, rfl, -⟩ := afterLetters?_eq_some hTail
      rw [Option.bind_some, Option.bind_some,
        Position.advance_cons c (List.suffix_append word left)]
  | case4 letters more c tail hLetter =>
    rw [word, run_sequence, run_one_cons, if_neg (by simpa using hLetter)]
    rfl

/-- Where the word of a statement is passed, if a statement begins here. -/
theorem run_opening (position : Position) (next : Position → Option α) :
    opening.run position next =
      if position.isLineStart && startsStatement position.left then
        (afterLetters? selectLetters position.left).bind fun left => next (position.advance left)
      else none := by
  obtain ⟨passed, text⟩ := position
  rw [opening, run_sequence, run_look, run_word, startsStatement]
  cases hLetters : afterLetters? selectLetters text with
  | none => simp
  | some left =>
    obtain ⟨word, rfl, hLength, hWord⟩ := afterLetters?_eq_some hLetters
    -- the last letter is behind a possible edge of the word
    have hLast : ∃ c ∈ word.reverse, (word.reverse ++ passed).head? = some c := by
      cases hReverse : word.reverse with
      | nil =>
        have hZero := congrArg List.length hReverse
        rw [List.length_reverse, hLength] at hZero
        cases hZero
      | cons c before => exact ⟨c, List.mem_cons_self, rfl⟩
    obtain ⟨c, hMem, hHead⟩ := hLast
    have hLetter := isLetter_of_mem (hWord c (List.mem_reverse.mp hMem))
    rw [Option.bind_some, Option.bind_some, Position.advance_append, run_look, Position.isWordEdge,
      hHead, Option.any_some, hLetter.isWordLike]
    cases left with
    | nil => simp
    | cons d left => cases hD : Text.isWordLike d <;> simp [hD]

theorem run_closing (position : Position) (h : ∀ c ∈ position.left.head?, c = ';')
    (found : Position → α) :
    closing.run position (fun finish => some (found finish)) =
      some (found (position.advance position.left.tail)) := by
  obtain ⟨passed, left⟩ := position
  rw [closing, run_choice]
  cases left with
  | nil =>
    rw [run_one_nil, Option.none_or, List.tail_nil, Position.advance_self]
    rfl
  | cons c rest =>
    obtain rfl := h c rfl
    rw [run_one_cons, if_pos (by decide), Option.some_or, List.tail_cons, Position.advance_rest]

theorem find?_eq (position : Position) :
    find? statement closing position =
      if position.isLineStart && startsStatement position.left then
        some ⟨position, position.advance (fromTerminator position.left),
          position.advance (fromTerminator position.left).tail⟩
      else none := by
  rw [find?, statement, run_sequence, run_opening]
  split
  · rename_i hStart
    rw [Bool.and_eq_true] at hStart
    obtain ⟨left, hLetters, -⟩ := startsStatement_eq_true_iff.mp hStart.2
    obtain ⟨word, hText, -, hWord⟩ := afterLetters?_eq_some hLetters
    have hLeft : left <:+ position.left := hText ▸ List.suffix_append word left
    have hStop : fromTerminator position.left = fromTerminator left := by
      rw [hText]
      apply fromTerminator_append
      intro c hc
      have hLetter := isLetter_of_mem (hWord c hc)
      exact ⟨hLetter.ne_semicolon, hLetter.ne_quote⟩
    have hSuffix := fromTerminator_suffix left
    rw [hLetters, Option.bind_some, hStop]
    refine (run_body (fun reached => ⟨position, reached, reached.advance reached.left.tail⟩)
      (fun reached h => run_closing reached h _) left (position.advance left).passed).trans ?_
    change some (Match.mk position ((position.advance left).advance (fromTerminator left))
      (((position.advance left).advance (fromTerminator left)).advance
        (fromTerminator left).tail)) = _
    rw [Position.advance_advance hSuffix hLeft,
      Position.advance_advance (List.tail_suffix _) (hSuffix.trans hLeft)]
  · rfl

end statement

section statements

theorem findAll_of_find?_eq_some {wanted closing : Pattern} {found : Match}
    (h : find? wanted closing position = some found)
    (hLess : found.finish.left.length < position.left.length) :
    findAll wanted closing position = found :: findAll wanted closing found.finish := by
  rw [findAll, h]
  exact dif_pos hLess

theorem findAll_of_find?_eq_none {wanted closing : Pattern}
    (h : find? wanted closing ⟨passed, c :: rest⟩ = none) :
    findAll wanted closing ⟨passed, c :: rest⟩ = findAll wanted closing ⟨c :: passed, rest⟩ := by
  rw [findAll, h]

theorem findAll_nil : findAll statement closing ⟨passed, []⟩ = [] := by
  rw [findAll, find?_eq, if_neg]
  rw [Bool.and_eq_true]
  exact fun h => by cases h.2

theorem findAll_eq (position : Position) :
    (findAll statement closing position).map Match.statement =
      statementsFrom (position.passed.count '\n' + 1) position.isLineStart position.left := by
  obtain ⟨passed, text⟩ := position
  generalize hLineStart : Position.isLineStart ⟨passed, text⟩ = lineStart
  induction lineStart, text using statements_induction generalizing passed with
  | nil => rw [findAll_nil, statementsFrom_nil, List.map_nil]
  | skip lineStart c rest hSkip ih =>
    have hFind := find?_eq ⟨passed, c :: rest⟩
    rw [hLineStart, if_neg (by rw [hSkip]; decide)] at hFind
    have hCount : (c :: passed).count '\n' + 1 =
        if c = '\n' then passed.count '\n' + 1 + 1 else passed.count '\n' + 1 := by
      rw [List.count_cons]
      split <;> simp_all
    rw [findAll_of_find?_eq_none hFind, ih (c :: passed) rfl, statementsFrom_skip hSkip, hCount]
  | last text hWord hStop =>
    have hFind := find?_eq ⟨passed, text⟩
    have hLess : 0 < text.length := List.length_pos_iff.mpr (by rintro rfl; cases hWord)
    rw [hLineStart, if_pos (by rw [hWord]; rfl)] at hFind
    rw [findAll_of_find?_eq_some hFind (by simpa [hStop] using hLess), List.map_cons,
      statementsFrom_last hWord hStop]
    simp only [hStop, Position.advance, List.tail_nil, findAll_nil, List.map_nil]
    rw [Match.statement, Position.upTo, before_nil]
  | next captured after hWord hStop ih =>
    have hFind := find?_eq ⟨passed, captured ++ ';' :: after⟩
    have hLess : after.length < (captured ++ ';' :: after).length := by
      simp only [List.length_cons, List.length_append]
      omega
    have hAfter : (⟨passed, captured ++ ';' :: after⟩ : Position).advance after =
        ⟨';' :: captured.reverse ++ passed, after⟩ := by
      simpa using Position.advance_append passed (captured ++ [';']) after
    have hCount : (';' :: captured.reverse ++ passed).count '\n' + 1 =
        passed.count '\n' + 1 + captured.count '\n' := by
      simp [List.count_append]
      omega
    have hRest := ih (';' :: captured.reverse ++ passed) rfl
    rw [hCount] at hRest
    rw [hLineStart, if_pos (by rw [hWord]; rfl)] at hFind
    rw [findAll_of_find?_eq_some hFind (by simpa [hStop] using hLess), List.map_cons,
      statementsFrom_next hWord hStop]
    simp only [hStop, List.tail_cons, hAfter]
    rw [Match.statement, Position.upTo, Position.left_advance, before_append, hRest]

/-- Where the word of a statement is, the pattern matches as a whole. -/
theorem isSome_find? (position : Position) :
    (find? statement closing position).isSome = (opening.run position some).isSome := by
  rw [find?_eq, run_opening]
  split
  · rename_i hStart
    rw [Bool.and_eq_true] at hStart
    obtain ⟨left, hLetters, -⟩ := startsStatement_eq_true_iff.mp hStart.2
    rw [hLetters]
    rfl
  · rfl

theorem text_ne_nil_of_find? {found : Match} (h : find? statement closing position = some found) :
    found.statement.text ≠ [] := by
  rw [find?_eq] at h
  split at h
  · rename_i hStart
    rw [Bool.and_eq_true] at hStart
    cases h
    exact stripEnd_statement_ne_nil hStart.2
  · cases h

theorem exists_of_mem_findAll {wanted closing : Pattern} {found : Match}
    (h : found ∈ findAll wanted closing position) :
    ∃ start, find? wanted closing start = some found := by
  fun_induction findAll wanted closing position with
  | case1 position first hFirst _ ih =>
    rcases List.mem_cons.mp h with rfl | hLater
    · exact ⟨position, hFirst⟩
    · exact ih hLater
  | case2 position first hFirst _ => exact ⟨position, List.mem_singleton.mp h ▸ hFirst⟩
  | case3 => cases h
  | case4 position _ _ _ _ ih => exact ih h

/-- Searching a text for the pattern finds the statements of the scanner. Every match that begins
can be brought to its end, and none of the texts found is empty. -/
theorem statements_eq_scanned (text : Text) :
    statements text = Capture.statements text ∧
      (∀ position, (find? statement closing position).isSome =
        (opening.run position some).isSome) ∧
      ∀ found ∈ findAll statement closing (.atStart text), found.statement.text ≠ [] := by
  have hText : ∀ found ∈ findAll statement closing (.atStart text), found.statement.text ≠ [] := by
    intro found hFound
    obtain ⟨start, hStart⟩ := exists_of_mem_findAll hFound
    exact text_ne_nil_of_find? hStart
  refine ⟨?_, isSome_find?, hText⟩
  have hAll : statements text =
      (findAll statement closing (.atStart text)).map Match.statement := by
    apply List.filter_eq_self.mpr
    simpa using hText
  rw [hAll, findAll_eq]
  rfl

end statements

end Pattern

end QueryPatch
