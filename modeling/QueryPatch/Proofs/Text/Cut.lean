import QueryPatch.Text.Pieces
import Mathlib.Data.List.Forall2
import Mathlib.Data.List.TakeWhile

/-! # What cutting at a separator gives

The pieces of a text are the only parts that give the text when they are joined, and in which the
separator begins nowhere too early.
-/
set_option autoImplicit false

namespace QueryPatch.Text

/-- The separator does not begin inside the part, not even if the separator itself follows. -/
def Apart (separator part : Text) : Prop :=
  ∀ tail, tail <:+ part → tail ≠ [] → ¬ separator <+: tail ++ separator

/-- Parts that a separator keeps in place. The last one has no separator after it that an early
occurrence could overlap. -/
inductive Cut (separator : Text) : List Text → Prop
  | last {part : Text} : ¬ separator <:+: part → Cut separator [part]
  | cons {part : Text} {parts : List Text} :
      Apart separator part → Cut separator parts → Cut separator (part :: parts)

theorem Apart.tail {separator part : Text} {c : Char} (h : Apart separator (c :: part)) :
    Apart separator part :=
  fun tail hTail => h tail (hTail.trans (List.suffix_cons c part))

theorem Apart.cons {separator part : Text} {c : Char} (h : Apart separator part)
    (hFirst : ¬ separator <+: c :: part ++ separator) : Apart separator (c :: part) := by
  intro tail hTail hne
  rcases List.suffix_cons_iff.mp hTail with rfl | hTail
  · exact hFirst
  · exact h tail hTail hne

theorem apart_nil (separator : Text) : Apart separator [] :=
  fun _ hTail hne => absurd (List.suffix_nil.mp hTail) hne

theorem Cut.ne_nil {separator : Text} {parts : List Text} (h : Cut separator parts) :
    parts ≠ [] := by
  cases h <;> simp

@[simp] theorem join_singleton (separator part : Text) : join separator [part] = part := by
  simp [join]

theorem join_cons {separator part : Text} {parts : List Text} (h : parts ≠ []) :
    join separator (part :: parts) = part ++ separator ++ join separator parts := by
  cases parts with
  | nil => exact absurd rfl h
  | cons next rest => simp [join, List.intercalate, List.intersperse]

section pieces

variable {first : Char} {others : Text}

theorem pieces_nil : pieces first others [] = [[]] := by rw [pieces]

theorem pieces_separator (rest : Text) :
    pieces first others (first :: others ++ rest) = [] :: pieces first others rest := by
  rw [List.cons_append, pieces, if_pos ⟨rfl, List.isPrefixOf_iff_prefix.mpr ⟨rest, rfl⟩⟩,
    List.drop_left]

theorem pieces_cons {c : Char} {rest : Text} (h : ¬ first :: others <+: c :: rest) :
    pieces first others (c :: rest) = (pieces first others rest).modifyHead (c :: ·) := by
  have hHead : ¬ (c = first ∧ others.isPrefixOf rest = true) := by
    rintro ⟨rfl, hOthers⟩
    exact h (List.cons_prefix_cons.mpr ⟨rfl, List.isPrefixOf_iff_prefix.mp hOthers⟩)
  rw [pieces, if_neg hHead]

theorem pieces_append {part : Text} (h : Apart (first :: others) part) (rest : Text) :
    pieces first others (part ++ (first :: others) ++ rest) = part :: pieces first others rest := by
  induction part with
  | nil => exact pieces_separator rest
  | cons c part ih =>
    have hFirst : ¬ first :: others <+: c :: (part ++ (first :: others) ++ rest) := by
      intro hPrefix
      apply h (c :: part) List.suffix_rfl (List.cons_ne_nil c part)
      have hWhole : c :: part ++ first :: others <+: c :: (part ++ (first :: others) ++ rest) :=
        ⟨rest, by simp⟩
      apply List.prefix_of_prefix_length_le hPrefix hWhole
      · simp only [List.length_cons, List.length_append]
        omega
    rw [List.cons_append, List.cons_append, pieces_cons hFirst, ih h.tail, List.modifyHead_cons]

theorem pieces_of_not_infix {part : Text} (h : ¬ first :: others <:+: part) :
    pieces first others part = [part] := by
  induction part with
  | nil => exact pieces_nil
  | cons c part ih =>
    rw [List.infix_cons_iff, not_or] at h
    rw [pieces_cons h.1, ih h.2, List.modifyHead_cons]

theorem pieces_join {parts : List Text} (h : Cut (first :: others) parts) :
    pieces first others (join (first :: others) parts) = parts := by
  induction h with
  | last hPart => rw [join_singleton, pieces_of_not_infix hPart]
  | cons hPart hParts ih => rw [join_cons hParts.ne_nil, pieces_append hPart, ih]

theorem cut_pieces (text : Text) :
    Cut (first :: others) (pieces first others text) ∧
      join (first :: others) (pieces first others text) = text := by
  fun_induction pieces first others text with
  | case1 => exact ⟨.last (by simp), join_singleton _ _⟩
  | case2 c rest h ih =>
    obtain ⟨rfl, hOthers⟩ := h
    obtain ⟨rest, rfl⟩ := List.isPrefixOf_iff_prefix.mp hOthers
    rw [List.drop_left] at ih ⊢
    refine ⟨.cons (apart_nil _) ih.1, ?_⟩
    rw [join_cons ih.1.ne_nil, ih.2, List.nil_append, List.cons_append]
  | case3 c rest h ih =>
    have hPrefix : ¬ first :: others <+: c :: rest := by
      rw [List.cons_prefix_cons, ← List.isPrefixOf_iff_prefix]
      exact fun hBoth => h ⟨hBoth.1.symm, hBoth.2⟩
    obtain ⟨hCut, hJoin⟩ := ih
    generalize pieces first others rest = parts at hCut hJoin
    cases hCut with
    | last hPart =>
      rw [join_singleton] at hJoin
      subst hJoin
      refine ⟨.last ?_, join_singleton _ _⟩
      rw [List.infix_cons_iff, not_or]
      exact ⟨hPrefix, hPart⟩
    | cons hPart hParts =>
      -- the text goes on beyond the piece and the separator, so it shows an early occurrence too
      rw [join_cons hParts.ne_nil] at hJoin
      subst hJoin
      refine ⟨.cons (hPart.cons fun hEarly => hPrefix (hEarly.trans ?_)) hParts, ?_⟩
      · exact ⟨_, rfl⟩
      · rw [List.modifyHead_cons, join_cons hParts.ne_nil, List.cons_append, List.cons_append]

end pieces

theorem split_eq_some_iff {separator text : Text} {parts : List Text} (h : separator ≠ []) :
    split separator text = some parts ↔ Cut separator parts ∧ join separator parts = text := by
  cases separator with
  | nil => exact absurd rfl h
  | cons first others =>
    rw [split, Option.some.injEq]
    constructor
    · rintro rfl
      exact cut_pieces text
    · rintro ⟨hCut, rfl⟩
      exact pieces_join hCut

theorem exists_split {separator : Text} (h : separator ≠ []) (text : Text) :
    ∃ parts, split separator text = some parts := by
  cases separator with
  | nil => exact absurd rfl h
  | cons first others => exact ⟨pieces first others text, rfl⟩

theorem ne_nil_of_split {separator text : Text} {parts : List Text}
    (h : split separator text = some parts) : separator ≠ [] := by
  rintro rfl
  cases h

section foreign

variable {separator part : Text} {own : Char → Bool}

/-- If the part has no code point like one that the separator has, then the first such code point
of the separator says where the separator begins. -/
theorem apart_of_foreign (hPart : ∀ c ∈ part, own c = true)
    (hSeparator : ∃ c ∈ separator, own c = false) : Apart separator part := by
  rintro tail hTail hne ⟨after, hAfter⟩
  have hOwn : ∀ c ∈ tail, own c = true := fun c hc => hPart c (hTail.subset hc)
  have hShort : (separator.takeWhile own).length ≠ separator.length := by
    intro hLength
    obtain ⟨c, hc, hForeign⟩ := hSeparator
    have hAll := List.takeWhile_eq_self_iff.mp
      ((List.takeWhile_prefix own).eq_of_length hLength) c hc
    rw [hForeign] at hAll
    cases hAll
  have hLead := congrArg (List.takeWhile own) hAfter
  rw [List.takeWhile_append, if_neg hShort, List.takeWhile_append_of_pos hOwn] at hLead
  have hLength := congrArg List.length hLead
  rw [List.length_append] at hLength
  have hPositive := List.length_pos_iff.mpr hne
  omega

theorem not_infix_of_foreign (hPart : ∀ c ∈ part, own c = true)
    (hSeparator : ∃ c ∈ separator, own c = false) : ¬ separator <:+: part := by
  intro hInfix
  obtain ⟨c, hc, hForeign⟩ := hSeparator
  rw [hPart c (hInfix.subset hc)] at hForeign
  cases hForeign

theorem Cut.of_forall₂ (hSeparator : ∃ c ∈ separator, own c = false) {parts changed : List Text}
    (hCut : Cut separator parts)
    (hChanged : List.Forall₂ (fun old new => new = old ∨ ∀ c ∈ new, own c = true) parts changed) :
    Cut separator changed := by
  induction hCut generalizing changed with
  | last hPart =>
    cases hChanged with
    | cons hFirst hRest =>
      cases hRest
      rcases hFirst with rfl | hOwn
      · exact .last hPart
      · exact .last (not_infix_of_foreign hOwn hSeparator)
  | cons hPart hParts ih =>
    cases hChanged with
    | cons hFirst hRest =>
      rcases hFirst with rfl | hOwn
      · exact .cons hPart (ih hRest)
      · exact .cons (apart_of_foreign hOwn hSeparator) (ih hRest)

/-- A separator of one code point never begins early. -/
theorem Cut.of_not_mem {c : Char} {parts : List Text} (hne : parts ≠ [])
    (h : ∀ part ∈ parts, c ∉ part) : Cut [c] parts := by
  have hSeparator : ∃ d ∈ [c], (d != c) = false := ⟨c, List.mem_singleton_self c, by simp⟩
  induction parts with
  | nil => exact absurd rfl hne
  | cons part rest ih =>
    have hPart : ∀ d ∈ part, (d != c) = true := fun d hd =>
      bne_iff_ne.mpr fun hSame => h part List.mem_cons_self (hSame ▸ hd)
    cases rest with
    | nil => exact .last (not_infix_of_foreign hPart hSeparator)
    | cons next rest =>
      refine .cons (apart_of_foreign hPart hSeparator) (ih (List.cons_ne_nil next rest) ?_)
      exact fun other hOther => h other (List.mem_cons_of_mem part hOther)

end foreign

end QueryPatch.Text
