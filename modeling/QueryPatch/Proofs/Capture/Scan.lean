import QueryPatch.Capture
import QueryPatch.Proofs.Text.Strip

/-! # Scanning for statements

The scanner of captured statements, equation by equation: how it passes quotes, where it stops, and
what the start of a statement looks like.
-/
set_option autoImplicit false

namespace QueryPatch.Capture

theorem before_append (text rest : Text) : before (text ++ rest) rest = text := by
  simp [before]

theorem before_nil (text : Text) : before text [] = text := by
  simp [before]

theorem before_append_self {text rest : Text} (h : rest <:+ text) :
    before text rest ++ rest = text := by
  obtain ⟨captured, rfl⟩ := h
  rw [before_append]

theorem before_append_of_suffix {rest later : Text} (text : Text) (h : later <:+ rest) :
    before (text ++ rest) later = text ++ before rest later := by
  obtain ⟨between, rfl⟩ := h
  rw [← List.append_assoc, before_append, before_append]

/-- What follows the literal that an opening quote begins. There is none if no quote is left. -/
def afterLiteral? (rest : Text) : Option Text := (afterUnpaired? rest).or (afterLastPair? rest)

section quotes

variable {c : Char} {rest left : Text}

theorem afterQuote_eq (rest : Text) : afterQuote rest = (afterLiteral? rest).getD rest := by
  simp [afterQuote, afterLiteral?]

@[simp] theorem afterLiteral?_nil : afterLiteral? [] = none := rfl

theorem afterLiteral?_pair (rest : Text) :
    afterLiteral? ('\'' :: '\'' :: rest) = (afterLiteral? rest).or (some ('\'' :: rest)) := by
  simp [afterLiteral?, afterUnpaired?, afterLastPair?]

theorem afterLiteral?_quote (h : rest.head? ≠ some '\'') :
    afterLiteral? ('\'' :: rest) = some rest := by
  rw [afterLiteral?, afterUnpaired?, Option.some_or]
  rintro tail rfl
  exact h rfl

theorem afterLiteral?_other (h : c ≠ '\'') : afterLiteral? (c :: rest) = afterLiteral? rest := by
  rw [afterLiteral?, afterUnpaired?, afterLastPair?, afterLiteral?]
  · exact fun tail hc => absurd hc h
  · exact fun tail hc => absurd hc h
  · exact h

theorem afterLiteral?_append {plain : Text} (h : '\'' ∉ plain) (rest : Text) :
    afterLiteral? (plain ++ rest) = afterLiteral? rest := by
  induction plain with
  | nil => rfl
  | cons c plain ih =>
    rw [List.mem_cons, not_or] at h
    rw [List.cons_append, afterLiteral?_other (Ne.symm h.1), ih h.2]

/-- Quotes are read one by one or, where two stand together, in pairs. -/
theorem quotes_induction {motive : Text → Prop} (nil : motive [])
    (pair : ∀ rest, motive rest → motive ('\'' :: '\'' :: rest))
    (quote : ∀ rest, rest.head? ≠ some '\'' → motive ('\'' :: rest))
    (other : ∀ c rest, c ≠ '\'' → motive rest → motive (c :: rest)) (text : Text) :
    motive text := by
  induction text using afterUnpaired?.induct with
  | case1 => exact nil
  | case2 rest ih => exact pair rest ih
  | case3 rest hPair =>
    apply quote
    cases rest with
    | nil => nofun
    | cons c tail => exact fun h => hPair tail (by rw [Option.some.inj h])
  | case4 c rest _ hQuote ih => exact other c rest hQuote ih

theorem suffix_of_afterLiteral? (h : afterLiteral? rest = some left) : '\'' :: left <:+ rest := by
  induction rest using quotes_induction with
  | nil => cases h
  | pair rest ih =>
    rw [afterLiteral?_pair] at h
    cases hRest : afterLiteral? rest with
    | none =>
      rw [hRest, Option.none_or, Option.some.injEq] at h
      exact h ▸ List.suffix_rfl
    | some _ =>
      rw [hRest, Option.some_or] at h
      exact (ih (hRest.trans h)).trans (List.suffix_append ['\'', '\''] rest)
  | quote rest hHead =>
    rw [afterLiteral?_quote hHead, Option.some.injEq] at h
    exact h ▸ List.suffix_rfl
  | other c rest hOther ih =>
    rw [afterLiteral?_other hOther] at h
    exact (ih h).trans (List.suffix_cons c rest)

theorem afterLiteral?_eq_none_iff {text : Text} : afterLiteral? text = none ↔ '\'' ∉ text := by
  constructor
  · intro h hMem
    induction text using quotes_induction with
    | nil => cases hMem
    | pair rest _ =>
      rw [afterLiteral?_pair, Option.or_eq_none_iff] at h
      cases h.2
    | quote rest hHead =>
      rw [afterLiteral?_quote hHead] at h
      cases h
    | other c rest hOther ih =>
      rw [afterLiteral?_other hOther] at h
      rcases List.mem_cons.mp hMem with hHere | hRest
      · exact hOther hHere.symm
      · exact ih h hRest
  · intro h
    rw [← List.append_nil text, afterLiteral?_append h, afterLiteral?_nil]

end quotes

section fromTerminator

variable {c : Char} {rest : Text}

@[simp] theorem fromTerminator_nil : fromTerminator [] = [] := by rw [fromTerminator]

@[simp] theorem fromTerminator_semicolon (rest : Text) :
    fromTerminator (';' :: rest) = ';' :: rest := by
  rw [fromTerminator, if_pos rfl]

@[simp] theorem fromTerminator_quote (rest : Text) :
    fromTerminator ('\'' :: rest) = fromTerminator (afterQuote rest) := by
  rw [fromTerminator, if_neg (by decide), if_pos rfl]

theorem fromTerminator_other (hSemicolon : c ≠ ';') (hQuote : c ≠ '\'') :
    fromTerminator (c :: rest) = fromTerminator rest := by
  rw [fromTerminator, if_neg hSemicolon, if_neg hQuote]

theorem fromTerminator_append {plain : Text} (h : ∀ c ∈ plain, c ≠ ';' ∧ c ≠ '\'') (rest : Text) :
    fromTerminator (plain ++ rest) = fromTerminator rest := by
  induction plain with
  | nil => rfl
  | cons c plain ih =>
    obtain ⟨hSemicolon, hQuote⟩ := h c List.mem_cons_self
    rw [List.cons_append, fromTerminator_other hSemicolon hQuote]
    exact ih fun d hd => h d (List.mem_cons_of_mem c hd)

theorem fromTerminator_append_of_all {plain : Text}
    (h : plain.all (fun c => c != ';' && c != '\'') = true) (rest : Text) :
    fromTerminator (plain ++ rest) = fromTerminator rest := by
  apply fromTerminator_append
  simpa using h

theorem fromTerminator_eq_nil_or (text : Text) :
    fromTerminator text = [] ∨ ∃ after, fromTerminator text = ';' :: after := by
  fun_induction fromTerminator text with
  | case1 => exact .inl rfl
  | case2 rest => exact .inr ⟨rest, rfl⟩
  | case3 rest _ ih => exact ih
  | case4 c rest _ _ ih => exact ih

end fromTerminator

section start

/-- What is known of a letter of the word `select`. -/
structure IsLetter (c : Char) : Prop where
  isWordLike : Text.isWordLike c = true
  not_blank : Text.isBlank c = false
  ne_semicolon : c ≠ ';'
  ne_quote : c ≠ '\''
  ne_newline : c ≠ '\n'

theorem isLetter_of_mem {c : Char} (h : c ∈ selectLetters.flatten) : IsLetter c := by
  have hAll : selectLetters.flatten.all (fun c => Text.isWordLike c && !Text.isBlank c &&
      c != ';' && c != '\'' && c != '\n') = true := rfl
  have hLetter := List.all_eq_true.mp hAll c h
  simp only [Bool.and_eq_true, Bool.not_eq_true', bne_iff_ne] at hLetter
  obtain ⟨⟨⟨⟨hWord, hBlank⟩, hSemicolon⟩, hQuote⟩, hNewline⟩ := hLetter
  exact ⟨hWord, hBlank, hSemicolon, hQuote, hNewline⟩

theorem afterLetters?_cons_eq_some_iff {letters : List Char} {more : List (List Char)}
    {text rest : Text} :
    afterLetters? (letters :: more) text = some rest ↔
      ∃ c tail, text = c :: tail ∧ c ∈ letters ∧ afterLetters? more tail = some rest := by
  cases text with
  | nil => simp [afterLetters?]
  | cons c tail =>
    rw [afterLetters?]
    constructor
    · intro h
      split at h
      · rename_i hLetter
        exact ⟨c, tail, rfl, List.contains_iff_mem.mp hLetter, h⟩
      · cases h
    · rintro ⟨c, tail, ⟨⟩, hLetter, h⟩
      rw [if_pos (List.contains_iff_mem.mpr hLetter), h]

theorem afterLetters?_eq_some {letters : List (List Char)} {text rest : Text}
    (h : afterLetters? letters text = some rest) :
    ∃ word, text = word ++ rest ∧ word.length = letters.length ∧
      ∀ c ∈ word, c ∈ letters.flatten := by
  induction letters generalizing text with
  | nil =>
    obtain rfl := Option.some.inj h
    exact ⟨[], rfl, rfl, nofun⟩
  | cons letters more ih =>
    obtain ⟨c, tail, rfl, hLetter, hTail⟩ := afterLetters?_cons_eq_some_iff.mp h
    obtain ⟨word, rfl, hLength, hWord⟩ := ih hTail
    refine ⟨c :: word, rfl, by simp [hLength], fun d hd => ?_⟩
    rw [List.flatten_cons, List.mem_append]
    rcases List.mem_cons.mp hd with rfl | hd
    · exact .inl hLetter
    · exact .inr (hWord d hd)

theorem startsStatement_eq_true_iff {text : Text} :
    startsStatement text = true ↔ ∃ rest, afterLetters? selectLetters text = some rest ∧
      ∀ c ∈ rest.head?, Text.isWordLike c = false := by
  rw [startsStatement]
  split
  · simp_all
  · simp_all
  · simp_all

/-- A statement begins with the letters of its first word, and no word goes on after them. -/
theorem exists_word_of_startsStatement {text : Text} (h : startsStatement text = true) :
    ∃ word rest, text = word ++ rest ∧ word ≠ [] ∧ (∀ c ∈ word, IsLetter c) ∧
      ∀ c ∈ rest.head?, Text.isWordLike c = false := by
  obtain ⟨rest, hAfter, hRest⟩ := startsStatement_eq_true_iff.mp h
  obtain ⟨word, hText, hLength, hWord⟩ := afterLetters?_eq_some hAfter
  refine ⟨word, rest, hText, ?_, fun c hc => isLetter_of_mem (hWord c hc), hRest⟩
  rintro rfl
  cases hLength

/-- What a statement captures is not empty, and not blank either. -/
theorem stripEnd_statement_ne_nil {text : Text} (h : startsStatement text = true) :
    Text.stripEnd (before text (fromTerminator text)) ≠ [] := by
  obtain ⟨word, rest, rfl, hne, hWord, -⟩ := exists_word_of_startsStatement h
  obtain ⟨c, tail, rfl⟩ := List.exists_cons_of_ne_nil hne
  rw [fromTerminator_append fun d hd => ⟨(hWord d hd).ne_semicolon, (hWord d hd).ne_quote⟩,
    before_append_of_suffix _ (fromTerminator_suffix rest)]
  exact Text.stripEnd_ne_nil List.mem_cons_self (hWord c List.mem_cons_self).not_blank

end start

section statementsFrom

variable {line : Nat} {text : Text}

@[simp] theorem statementsFrom_nil (line : Nat) (lineStart : Bool) :
    statementsFrom line lineStart [] = [] := by
  rw [statementsFrom]

theorem statementsFrom_skip {lineStart : Bool} {c : Char} {rest : Text}
    (h : (lineStart && startsStatement (c :: rest)) = false) :
    statementsFrom line lineStart (c :: rest) =
      statementsFrom (if c = '\n' then line + 1 else line) (c = '\n') rest := by
  rw [statementsFrom, h]
  rfl

theorem statementsFrom_last (h : startsStatement text = true) (hStop : fromTerminator text = []) :
    statementsFrom line true text = [⟨line, Text.stripEnd text⟩] := by
  cases text with
  | nil => cases h
  | cons c rest =>
    rw [statementsFrom, if_pos (by simpa using h)]
    split
    · rw [hStop, before_nil]
    · rename_i hStop'
      rw [hStop] at hStop'
      cases hStop'

/-- Without semicolons and quotes the first query goes on to the end. -/
theorem statements_of_all (h : startsStatement text = true)
    (hPlain : text.all (fun c => c != ';' && c != '\'') = true) :
    statements text = [⟨1, Text.stripEnd text⟩] := by
  have hStop : fromTerminator text = [] := by
    rw [← List.append_nil text, fromTerminator_append_of_all hPlain, fromTerminator_nil]
  exact statementsFrom_last h hStop

theorem statementsFrom_next {captured after : Text}
    (h : startsStatement (captured ++ ';' :: after) = true)
    (hStop : fromTerminator (captured ++ ';' :: after) = ';' :: after) :
    statementsFrom line true (captured ++ ';' :: after) =
      ⟨line, Text.stripEnd captured⟩ ::
        statementsFrom (line + captured.count '\n') false after := by
  generalize hText : captured ++ ';' :: after = text at h hStop
  have hBefore : before text (';' :: after) = captured := by rw [← hText, before_append]
  cases text with
  | nil => cases h
  | cons c rest =>
    rw [statementsFrom, if_pos (by simpa using h)]
    split
    · rename_i hStop'
      rw [hStop] at hStop'
      cases hStop'
    · rename_i hStop'
      rw [hStop] at hStop'
      cases hStop'
      rw [hStop, hBefore]

/-- A statement goes up to the end of the text, or up to a semicolon. -/
theorem fromTerminator_cases (text : Text) :
    fromTerminator text = [] ∨
      ∃ captured after, text = captured ++ ';' :: after ∧ fromTerminator text = ';' :: after := by
  obtain ⟨captured, hText⟩ := fromTerminator_suffix text
  rcases fromTerminator_eq_nil_or text with hStop | ⟨after, hStop⟩
  · exact .inl hStop
  · rw [hStop] at hText
    exact .inr ⟨captured, after, hText.symm, hStop⟩

/-- The scanner skips a code point, or captures up to the end of the text or up to a semicolon. -/
theorem statements_induction {motive : Bool → Text → Prop}
    (nil : ∀ lineStart, motive lineStart [])
    (skip : ∀ lineStart c rest, (lineStart && startsStatement (c :: rest)) = false →
      motive (c = '\n') rest → motive lineStart (c :: rest))
    (last : ∀ text, startsStatement text = true → fromTerminator text = [] → motive true text)
    (next : ∀ captured after, startsStatement (captured ++ ';' :: after) = true →
      fromTerminator (captured ++ ';' :: after) = ';' :: after → motive false after →
      motive true (captured ++ ';' :: after))
    (lineStart : Bool) (text : Text) : motive lineStart text := by
  induction h : text.length using Nat.strongRecOn generalizing lineStart text with
  | ind length ih =>
    subst h
    cases text with
    | nil => exact nil lineStart
    | cons c rest =>
      by_cases hStart : (lineStart && startsStatement (c :: rest)) = true
      · obtain ⟨rfl, hWord⟩ := Bool.and_eq_true_iff.mp hStart
        rcases fromTerminator_cases (c :: rest) with hStop | ⟨captured, after, hText, hStop⟩
        · exact last _ hWord hStop
        · rw [hText] at hWord hStop ih ⊢
          refine next captured after hWord hStop (ih _ ?_ false after rfl)
          simp only [List.length_cons, List.length_append]
          omega
      · exact skip lineStart c rest (Bool.not_eq_true _ ▸ hStart)
          (ih _ (Nat.lt_succ_self _) _ rest rfl)

end statementsFrom

end QueryPatch.Capture
