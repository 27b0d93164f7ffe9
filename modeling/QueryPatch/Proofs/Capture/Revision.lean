import QueryPatch.Proofs.Capture.Scan

/-! # Captured queries with lines changed

Where a query ends depends on its quotes and semicolons, and on whether quotes follow it. So a line
without quotes can be swapped for another one, and what is behind the query for something else, as
long as no quotes come in.
-/
set_option autoImplicit false

namespace QueryPatch

open Text Capture

/-- The second text is the first one with some lines swapped, but not the first line. No quote goes
or comes with a line. -/
inductive Revised : Text → Text → Prop
  | nil : Revised [] []
  | same {old new : Text} (c : Char) : Revised old new → Revised (c :: old) (c :: new)
  | line {before after old new : Text} :
      '\'' ∉ before → (∀ c ∈ after, c ≠ ';' ∧ c ≠ '\'') →
      after ≠ [] → IsStripped after → Revised old new →
      Revised ('\n' :: (before ++ old)) ('\n' :: (after ++ new))

theorem Text.isWordLike_of_isBlank {c : Char} (h : isBlank c = true) : isWordLike c = false := by
  have hAll : ∀ n ∈ blanks, isWordLike (Char.ofNat n) = false := by decide +kernel
  rw [← Char.ofNat_toNat c]
  exact hAll _ (List.contains_iff_mem.mp h)

namespace Revised

variable {old new : Text}

theorem refl (text : Text) : Revised text text := by
  induction text with
  | nil => exact .nil
  | cons c text ih => exact .same c ih

theorem append (text : Text) (h : Revised old new) : Revised (text ++ old) (text ++ new) := by
  induction text with
  | nil => exact h
  | cons c text ih => exact .same c ih

theorem head?_eq (h : Revised old new) : new.head? = old.head? := by
  cases h <;> rfl

theorem mem_quote (h : Revised old new) (hMem : '\'' ∈ new) : '\'' ∈ old := by
  induction h with
  | nil => exact hMem
  | same c _ ih =>
    rcases List.mem_cons.mp hMem with rfl | hMem
    · exact List.mem_cons_self
    · exact List.mem_cons_of_mem c (ih hMem)
  | line _ hAfter _ _ _ ih =>
    rcases List.mem_cons.mp hMem with hNewline | hMem
    · cases hNewline
    rcases List.mem_append.mp hMem with hMem | hMem
    · exact absurd rfl (hAfter _ hMem).2
    · exact List.mem_cons_of_mem _ (List.mem_append_right _ (ih hMem))

theorem eq_nil_iff (h : Revised old new) : new = [] ↔ old = [] := by
  rw [← List.head?_eq_none_iff, h.head?_eq, List.head?_eq_none_iff]

theorem isStripped (h : Revised old new) (hOld : IsStripped old) : IsStripped new := by
  induction h with
  | nil => exact hOld
  | @same old new c h ih =>
    by_cases hne : old = []
    · rwa [h.eq_nil_iff.mpr hne, ← hne]
    · have hRest := ih ((isStripped_append_iff [c] hne).mp hOld)
      exact (isStripped_append_iff [c] (mt h.eq_nil_iff.mp hne)).mpr hRest
  | @line before after old new _ _ hAfter hLast h ih =>
    by_cases hne : old = []
    · rw [h.eq_nil_iff.mpr hne, List.append_nil]
      exact (isStripped_append_iff ['\n'] hAfter).mpr hLast
    · have hRest := ih ((isStripped_append_iff ('\n' :: before) hne).mp hOld)
      exact (isStripped_append_iff ('\n' :: after) (mt h.eq_nil_iff.mp hne)).mpr hRest

end Revised

namespace Capture

/-- What is behind a captured query: blanks, then its semicolon or the end of the text. -/
def Behind (tail stop : Text) : Prop :=
  (∃ gap, tail = gap ++ stop ∧ ∀ c ∈ gap, isBlank c = true) ∧ ∀ c ∈ stop.head?, c = ';'

namespace Behind

variable {tail stop rest : Text}

theorem of_semicolon (after : Text) : Behind (';' :: after) (';' :: after) :=
  ⟨⟨[], rfl, nofun⟩, fun _ h => (Option.some.inj h).symm⟩

theorem head (h : Behind tail stop) : ∀ c ∈ tail.head?, c = ';' ∨ isBlank c = true := by
  obtain ⟨⟨gap, rfl, hGap⟩, hStop⟩ := h
  intro c hc
  cases gap with
  | nil => exact .inl (hStop c hc)
  | cons d gap =>
    obtain rfl : d = c := Option.some.inj hc
    exact .inr (hGap d List.mem_cons_self)

theorem head?_ne_quote (h : Behind tail stop) : tail.head? ≠ some '\'' := by
  intro hQuote
  rcases h.head '\'' hQuote with h | h
  · cases h
  · revert h
    decide

theorem not_isWordLike (h : Behind tail stop) : ∀ c ∈ tail.head?, isWordLike c = false := by
  intro c hc
  rcases h.head c hc with rfl | hBlank
  · decide
  · exact isWordLike_of_isBlank hBlank

theorem fromTerminator_eq (h : Behind tail stop) : fromTerminator tail = stop := by
  obtain ⟨⟨gap, rfl, hGap⟩, hStop⟩ := h
  have hPlain : ∀ c ∈ gap, c ≠ ';' ∧ c ≠ '\'' := by
    intro c hc
    have hBlank := hGap c hc
    constructor <;> rintro rfl <;> revert hBlank <;> decide
  rw [fromTerminator_append hPlain]
  cases stop with
  | nil => exact fromTerminator_nil
  | cons c rest => rw [hStop c rfl, fromTerminator_semicolon]

/-- A quote behind the query comes after the end of the query. -/
theorem fromTerminator_ne (h : Behind tail stop) (hQuote : '\'' :: rest <:+ tail) :
    fromTerminator rest ≠ stop := by
  obtain ⟨⟨gap, rfl, hGap⟩, -⟩ := h
  have hStop : '\'' :: rest <:+ stop := by
    induction gap with
    | nil => exact hQuote
    | cons c gap ih =>
      rcases List.suffix_cons_iff.mp hQuote with hHere | hLater
      · obtain rfl : '\'' = c := (List.cons.inj hHere).1
        exact absurd (hGap '\'' List.mem_cons_self) (by decide)
      · exact ih (fun d hd => hGap d (List.mem_cons_of_mem c hd)) hLater
  intro hEnd
  have hShort := (fromTerminator_suffix rest).length_le
  have hLong := hStop.length_le
  rw [hEnd] at hShort
  simp only [List.length_cons] at hLong
  omega

theorem length_le (h : Behind tail stop) : stop.length ≤ tail.length := by
  obtain ⟨⟨gap, rfl, -⟩, -⟩ := h
  simp

end Behind

theorem fromTerminator_of_append {plain rest stop : Text} (h : '\'' ∉ plain)
    (hLength : stop.length ≤ rest.length) (hEnd : fromTerminator (plain ++ rest) = stop) :
    fromTerminator rest = stop := by
  induction plain with
  | nil => exact hEnd
  | cons c plain ih =>
    rw [List.mem_cons, not_or] at h
    by_cases hSemicolon : c = ';'
    · rw [hSemicolon, List.cons_append, fromTerminator_semicolon] at hEnd
      simp only [← hEnd, List.length_cons, List.length_append] at hLength
      omega
    · rw [List.cons_append, fromTerminator_other hSemicolon (Ne.symm h.1)] at hEnd
      exact ih h.2 hEnd

end Capture

namespace Revised

variable {old new tail tail' stop stop' left : Text}

theorem afterLiteral?_eq_none (h : Revised old new) (hQuotes : '\'' ∈ tail' → '\'' ∈ tail)
    (hNone : afterLiteral? (old ++ tail) = none) : afterLiteral? (new ++ tail') = none := by
  rw [afterLiteral?_eq_none_iff, List.mem_append, not_or] at hNone ⊢
  exact ⟨mt h.mem_quote hNone.1, mt hQuotes hNone.2⟩

/-- Both texts are read quote by quote or pair by pair, as long as they are the same. -/
theorem quotes_induction {motive : (old new : Text) → Revised old new → Prop}
    (nil : motive [] [] .nil)
    (pair : ∀ {old new : Text} (h : Revised old new), motive old new h →
      motive ('\'' :: '\'' :: old) ('\'' :: '\'' :: new) (.same _ (.same _ h)))
    (quote : ∀ {old new : Text} (h : Revised old new), old.head? ≠ some '\'' →
      motive ('\'' :: old) ('\'' :: new) (.same _ h))
    (other : ∀ {c : Char} {old new : Text} (_ : c ≠ '\'') (h : Revised old new),
      motive old new h → motive (c :: old) (c :: new) (.same c h))
    (line : ∀ {before after old new : Text} (hBefore : '\'' ∉ before)
      (hAfter : ∀ c ∈ after, c ≠ ';' ∧ c ≠ '\'') (hne : after ≠ []) (hStripped : IsStripped after)
      (h : Revised old new), motive old new h →
      motive ('\n' :: (before ++ old)) ('\n' :: (after ++ new))
        (.line hBefore hAfter hne hStripped h))
    {old new : Text} (h : Revised old new) : motive old new h := by
  induction hLength : old.length using Nat.strongRecOn generalizing old new with
  | ind length ih =>
    subst hLength
    cases h with
    | nil => exact nil
    | @same old new c h =>
      by_cases hQuote : c = '\''
      · subst hQuote
        by_cases hPair : old.head? = some '\''
        · obtain ⟨rest, rfl⟩ := List.head?_eq_some_iff.mp hPair
          cases h with
          | same _ h => exact pair h (ih _ (by simp only [List.length_cons]; omega) h rfl)
        · exact quote h hPair
      · exact other hQuote h (ih _ (Nat.lt_succ_self _) h rfl)
    | line hBefore hAfter hne hStripped h =>
      refine line hBefore hAfter hne hStripped h (ih _ ?_ h rfl)
      simp only [List.length_cons, List.length_append]
      omega

theorem head?_append_ne_quote {text rest : Text} (h : text.head? ≠ some '\'')
    (hRest : rest.head? ≠ some '\'') : (text ++ rest).head? ≠ some '\'' := by
  cases text with
  | nil => exact hRest
  | cons => exact h

/-- A literal that ends inside the query ends at the same quote after the changes. -/
theorem afterLiteral?_eq_some (h : Revised old new) (hTail : tail.head? ≠ some '\'')
    (hTail' : tail'.head? ≠ some '\'') (hQuotes : '\'' ∈ tail' → '\'' ∈ tail)
    (hLiteral : afterLiteral? (old ++ tail) = some left) :
    '\'' :: left <:+ tail ∨ ∃ oldLeft newLeft, Revised oldLeft newLeft ∧
      left = oldLeft ++ tail ∧ afterLiteral? (new ++ tail') = some (newLeft ++ tail') := by
  induction h using quotes_induction with
  | nil => exact .inl (suffix_of_afterLiteral? hLiteral)
  | @pair old new h ih =>
    simp only [List.cons_append, afterLiteral?_pair] at hLiteral ⊢
    cases hRest : afterLiteral? (old ++ tail) with
    | none =>
      rw [hRest, Option.none_or, Option.some.injEq] at hLiteral
      refine .inr ⟨'\'' :: old, '\'' :: new, .same _ h, hLiteral.symm, ?_⟩
      rw [h.afterLiteral?_eq_none hQuotes hRest, Option.none_or, List.cons_append]
    | some _ =>
      rw [hRest, Option.some_or] at hLiteral
      rcases ih (hRest.trans hLiteral) with hBehind | ⟨oldLeft, newLeft, hLeft, hOld, hNew⟩
      · exact .inl hBehind
      · exact .inr ⟨oldLeft, newLeft, hLeft, hOld, by rw [hNew, Option.some_or]⟩
  | @quote old new h hHead =>
    have hHead' : new.head? ≠ some '\'' := by rwa [h.head?_eq]
    rw [List.cons_append, afterLiteral?_quote (head?_append_ne_quote hHead hTail),
      Option.some.injEq] at hLiteral
    refine .inr ⟨old, new, h, hLiteral.symm, ?_⟩
    rw [List.cons_append, afterLiteral?_quote (head?_append_ne_quote hHead' hTail')]
  | other hOther _ ih =>
    rw [List.cons_append, afterLiteral?_other hOther] at hLiteral ⊢
    exact ih hLiteral
  | line hBefore hAfter _ _ _ ih =>
    rw [List.cons_append, afterLiteral?_other (by decide), List.append_assoc,
      afterLiteral?_append hBefore] at hLiteral
    rw [List.cons_append, afterLiteral?_other (by decide), List.append_assoc,
      afterLiteral?_append fun hMem => (hAfter _ hMem).2 rfl]
    exact ih hLiteral

/-- The changed query goes up to what is behind it, as the query did. -/
theorem fromTerminator_eq (h : Revised old new) (hBehind : Behind tail stop)
    (hBehind' : Behind tail' stop') (hQuotes : '\'' ∈ tail' → '\'' ∈ tail)
    (hEnd : fromTerminator (old ++ tail) = stop) : fromTerminator (new ++ tail') = stop' := by
  induction hLength : old.length using Nat.strongRecOn generalizing old new with
  | ind length ih =>
    subst hLength
    cases h with
    | nil => exact hBehind'.fromTerminator_eq
    | @same old new c h =>
      have hShorter : old.length < (c :: old).length := Nat.lt_succ_self _
      by_cases hSemicolon : c = ';'
      · rw [hSemicolon, List.cons_append, fromTerminator_semicolon] at hEnd
        have hShort := hBehind.length_le
        simp only [← hEnd, List.length_cons, List.length_append] at hShort
        omega
      by_cases hQuote : c = '\''
      · subst hQuote
        rw [List.cons_append, fromTerminator_quote, afterQuote_eq] at hEnd ⊢
        cases hLiteral : afterLiteral? (old ++ tail) with
        | none =>
          rw [h.afterLiteral?_eq_none hQuotes hLiteral, Option.getD_none]
          rw [hLiteral, Option.getD_none] at hEnd
          exact ih _ hShorter h hEnd rfl
        | some left =>
          rw [hLiteral, Option.getD_some] at hEnd
          rcases h.afterLiteral?_eq_some hBehind.head?_ne_quote hBehind'.head?_ne_quote hQuotes
            hLiteral with hTail | ⟨oldLeft, newLeft, hLeft, rfl, hNew⟩
          · exact absurd hEnd (hBehind.fromTerminator_ne hTail)
          · have hSuffix := (suffix_of_afterLiteral? hLiteral).length_le
            simp only [List.length_cons, List.length_append] at hSuffix
            rw [hNew, Option.getD_some]
            exact ih _ (by simp only [List.length_cons]; omega) hLeft hEnd rfl
      · rw [List.cons_append, fromTerminator_other hSemicolon hQuote] at hEnd ⊢
        exact ih _ hShorter h hEnd rfl
    | @line before after old new hBefore hAfter _ _ h =>
      have hShorter : old.length < ('\n' :: (before ++ old)).length := by
        simp only [List.length_cons, List.length_append]
        omega
      have hLong : stop.length ≤ (old ++ tail).length := by
        have hShort := hBehind.length_le
        simp only [List.length_append]
        omega
      rw [List.cons_append, fromTerminator_other (by decide) (by decide),
        List.append_assoc] at hEnd ⊢
      rw [fromTerminator_append hAfter]
      exact ih _ hShorter h (fromTerminator_of_append hBefore hLong hEnd) rfl

theorem afterLetters?_eq_some {letters : List (List Char)} (h : Revised old new)
    (hLetters : ∀ c ∈ letters.flatten, IsLetter c) (hBehind : Behind tail stop)
    (hBehind' : Behind tail' stop') (hAfter : afterLetters? letters (old ++ tail) = some left)
    (hEdge : ∀ c ∈ left.head?, isWordLike c = false) :
    ∃ newLeft, afterLetters? letters (new ++ tail') = some newLeft ∧
      ∀ c ∈ newLeft.head?, isWordLike c = false := by
  induction letters generalizing old new with
  | nil =>
    obtain rfl : old ++ tail = left := Option.some.inj hAfter
    refine ⟨new ++ tail', rfl, ?_⟩
    cases h with
    | nil => exact hBehind'.not_isWordLike
    | same c _ => exact hEdge
    | line =>
      rintro c ⟨⟩
      decide
  | cons letters more ih =>
    rw [List.flatten_cons, List.forall_mem_append] at hLetters
    obtain ⟨c, rest, hText, hMem, hRest⟩ := afterLetters?_cons_eq_some_iff.mp hAfter
    have hLetter := hLetters.1 c hMem
    cases h with
    | nil =>
      obtain rfl : tail = c :: rest := hText
      have hEdge := hBehind.not_isWordLike c rfl
      rw [hLetter.isWordLike] at hEdge
      cases hEdge
    | @same old new d h =>
      rw [List.cons_append, List.cons.injEq] at hText
      obtain ⟨rfl, rfl⟩ := hText
      obtain ⟨newLeft, hNew, hNewEdge⟩ := ih h hLetters.2 hRest
      exact ⟨newLeft, afterLetters?_cons_eq_some_iff.mpr ⟨d, _, rfl, hMem, hNew⟩, hNewEdge⟩
    | line => exact absurd (List.cons.inj hText).1.symm hLetter.ne_newline

/-- The first line is the old one as far as the word goes. -/
theorem startsStatement (h : Revised old new) (hBehind : Behind tail stop)
    (hBehind' : Behind tail' stop') (hStart : startsStatement (old ++ tail) = true) :
    startsStatement (new ++ tail') = true := by
  obtain ⟨left, hAfter, hEdge⟩ := startsStatement_eq_true_iff.mp hStart
  exact startsStatement_eq_true_iff.mpr
    (h.afterLetters?_eq_some (fun _ => isLetter_of_mem) hBehind hBehind' hAfter hEdge)

end Revised

end QueryPatch
