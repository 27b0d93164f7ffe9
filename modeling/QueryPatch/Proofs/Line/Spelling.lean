import QueryPatch.Proofs.Line.Grammar
import QueryPatch.Proofs.Text.Lowercase
import QueryPatch.Proofs.Text.Strip

/-! # The spelling of names

Names in quotes can be written with ASCII capitals or without. A line is read alike in all spellings
of its names: the readers of tables and aggregations find a line with all names in lower case to be
what they find the line to be, with the names in lower case.
-/
set_option autoImplicit false

namespace QueryPatch

namespace Text

/-- Whether the text begins with a word that ends at a quote. Behind a quote, such a word is a
name. -/
def closesName (text : Text) : Bool := (text.dropWhile isWordChar).head? == some '"'

def lowerIf (named : Bool) (c : Char) : Char := if named then c.toLower else c

/-- All words between two quotes in lower case; `named` says whether the text begins in one. -/
def lowerNamesFrom : Bool → Text → Text
  | _, [] => []
  | named, c :: rest =>
    lowerIf named c :: lowerNamesFrom (if c = '"' then closesName rest else named) rest

/-- The text with all names in lower case. -/
def lowerNames (text : Text) : Text := lowerNamesFrom false text

/-- What follows a quote, with all names in lower case. -/
def lowerNamesBehind (text : Text) : Text := lowerNamesFrom (closesName text) text

example : lowerNames "SUM(\"T\".\"Vis_1\") AS \"M\"" = "SUM(\"t\".\"vis_1\") AS \"m\"".toList := by
  decide

section letters

theorem apply_lowerIf {β : Type} {f : Char → β} (h : ∀ c, f c.toLower = f c) (named : Bool)
    (c : Char) : f (lowerIf named c) = f c := by
  cases named with
  | false => rfl
  | true => exact h c

theorem isWordChar_toLower (c : Char) : isWordChar c.toLower = isWordChar c :=
  apply_toLower (by decide) c

theorem isBlank_toLower (c : Char) : isBlank c.toLower = isBlank c := apply_toLower (by decide) c

/-- Blanks have no case, and none of them is a part or an end of a name. -/
theorem plain_of_isBlank {c : Char} (h : isBlank c = true) :
    c.toLower = c ∧ isWordChar c = false ∧ c ≠ '"' := by
  have hBlanks : ∀ n ∈ blanks, (Char.ofNat n).toLower = Char.ofNat n ∧
      isWordChar (Char.ofNat n) = false ∧ Char.ofNat n ≠ '"' := by decide
  rw [← Char.ofNat_toNat c]
  exact hBlanks _ (List.contains_iff_mem.mp h)

theorem lowerIf_eq_iff {special : Char}
    (h : ∀ n ∈ capitals, (Char.ofNat n).toLower = special ↔ Char.ofNat n = special) (named : Bool)
    (c : Char) : lowerIf named c = special ↔ c = special :=
  iff_of_eq (apply_lowerIf (f := (· = special)) (fun c => propext (toLower_eq_iff h c)) named c)

theorem isWord_map {f : Char → Char} (h : ∀ c, isWordChar (f c) = isWordChar c) {word : Text} :
    IsWord (word.map f) ↔ IsWord word := by
  simp only [IsWord, ne_eq, List.map_eq_nil_iff, List.forall_mem_map, h]

theorem isWord_map_lowerIf {named : Bool} {word : Text} :
    IsWord (word.map (lowerIf named)) ↔ IsWord word :=
  isWord_map (apply_lowerIf isWordChar_toLower named)

theorem IsWord.ne_quote {word : Text} (h : IsWord word) : ∀ c ∈ word, c ≠ '"' := by
  rintro c hc rfl
  cases h.2 _ hc

end letters

section lowerNamesFrom

variable {named : Bool} {text word rest : Text}

theorem map_toLower_lowerNamesFrom (named : Bool) (text : Text) :
    (lowerNamesFrom named text).map Char.toLower = text.map Char.toLower := by
  induction text generalizing named with
  | nil => rfl
  | cons c rest ih =>
    rw [lowerNamesFrom, List.map_cons, List.map_cons, ih]
    exact congrArg (· :: _) (apply_lowerIf toLower_toLower named c)

theorem lowerNamesFrom_of_ne {c : Char} (h : c ≠ '"') (named : Bool) (rest : Text) :
    lowerNamesFrom named (c :: rest) = lowerIf named c :: lowerNamesFrom named rest := by
  rw [lowerNamesFrom, if_neg h]

theorem lowerNamesFrom_quote (named : Bool) (rest : Text) :
    lowerNamesFrom named ('"' :: rest) = '"' :: lowerNamesBehind rest := by
  cases named <;> rfl

theorem lowerNames_cons {c : Char} (h : c ≠ '"') (rest : Text) :
    lowerNames (c :: rest) = c :: lowerNames rest := lowerNamesFrom_of_ne h false rest

/-- Before the first quote behind it a text is written on as it begins. -/
theorem lowerNamesFrom_append (hRun : ∀ c ∈ word, c ≠ '"') (named : Bool) (rest : Text) :
    lowerNamesFrom named (word ++ rest) =
      word.map (lowerIf named) ++ lowerNamesFrom named rest := by
  induction word with
  | nil => rfl
  | cons c word ih =>
    rw [List.cons_append, lowerNamesFrom_of_ne (hRun c List.mem_cons_self),
      ih fun d hd => hRun d (List.mem_cons_of_mem c hd)]
    rfl

theorem quote_mem_lowerNamesFrom_iff : '"' ∈ lowerNamesFrom named text ↔ '"' ∈ text := by
  induction text generalizing named with
  | nil => rfl
  | cons c rest ih =>
    rw [lowerNamesFrom, List.mem_cons, List.mem_cons, ih, eq_comm,
      lowerIf_eq_iff (by decide) named c, eq_comm]

theorem lowerNames_of_not_mem (h : '"' ∉ text) : lowerNames text = text := by
  have hRun : ∀ c ∈ text, c ≠ '"' := fun c hc hQuote => h (hQuote ▸ hc)
  have hAll := lowerNamesFrom_append hRun false []
  rw [List.append_nil] at hAll
  rw [lowerNames, hAll]
  exact (List.append_nil _).trans (List.map_id' text)

end lowerNamesFrom

section readers

theorem takeWhile_dropWhile_lowerNames (own : Char → Bool) (hQuote : own '"' = false)
    (text : Text) :
    (lowerNames text).takeWhile own = text.takeWhile own ∧
      (lowerNames text).dropWhile own = lowerNames (text.dropWhile own) := by
  induction text with
  | nil => exact ⟨rfl, rfl⟩
  | cons c rest ih =>
    by_cases hOwn : own c = true
    · have hc : c ≠ '"' := by
        rintro rfl
        cases hQuote.symm.trans hOwn
      rw [lowerNames_cons hc, List.takeWhile_cons_of_pos hOwn, List.takeWhile_cons_of_pos hOwn,
        List.dropWhile_cons_of_pos hOwn, List.dropWhile_cons_of_pos hOwn, ih.1, ih.2]
      exact ⟨rfl, rfl⟩
    · have hHead : lowerNames (c :: rest) =
          c :: lowerNamesFrom (if c = '"' then closesName rest else false) rest := rfl
      rw [hHead, List.takeWhile_cons_of_neg hOwn, List.takeWhile_cons_of_neg hOwn,
        List.dropWhile_cons_of_neg hOwn, List.dropWhile_cons_of_neg hOwn, hHead]
      exact ⟨rfl, rfl⟩

theorem closesName_append {word : Text} (hWord : ∀ c ∈ word, isWordChar c = true) (rest : Text) :
    closesName (word ++ rest) = closesName rest := by
  rw [closesName, List.dropWhile_append_of_pos hWord, closesName]

theorem closesName_of_not_isWordChar {c : Char} (h : isWordChar c = false) (rest : Text) :
    closesName (c :: rest) = (c == '"') := by
  rw [closesName, List.dropWhile_cons_of_neg (by rw [h]; exact Bool.false_ne_true), List.head?_cons,
    Option.some_beq_some]

theorem closesName_append_blanks {gap : Text} (hGap : ∀ c ∈ gap, isBlank c = true) (text : Text) :
    closesName (text ++ gap) = closesName text := by
  induction text with
  | nil =>
    cases gap with
    | nil => rfl
    | cons c gap =>
      obtain ⟨-, hWord, hQuote⟩ := plain_of_isBlank (hGap c List.mem_cons_self)
      rw [List.nil_append, closesName_of_not_isWordChar hWord, beq_false_of_ne hQuote]
      rfl
  | cons c rest ih =>
    by_cases hWord : isWordChar c = true
    · have hOne : ∀ d ∈ [c], isWordChar d = true := by simpa using hWord
      exact (closesName_append hOne (rest ++ gap)).trans
        (ih.trans (closesName_append hOne rest).symm)
    · rw [Bool.not_eq_true] at hWord
      rw [List.cons_append, closesName_of_not_isWordChar hWord, closesName_of_not_isWordChar hWord]

theorem lowerNamesFrom_append_blanks {gap : Text} (hGap : ∀ c ∈ gap, isBlank c = true)
    (named : Bool) (text : Text) :
    lowerNamesFrom named (text ++ gap) = lowerNamesFrom named text ++ gap := by
  induction text generalizing named with
  | nil =>
    have hRun : ∀ c ∈ gap, c ≠ '"' := fun c hc => (plain_of_isBlank (hGap c hc)).2.2
    have hKept : gap.map (lowerIf named) = gap.map id := by
      apply List.map_congr_left
      intro c hc
      cases named with
      | false => rfl
      | true => exact (plain_of_isBlank (hGap c hc)).1
    have hAll := lowerNamesFrom_append hRun named []
    rw [hKept, List.map_id, List.append_nil] at hAll
    exact hAll.trans (List.append_nil gap)
  | cons c rest ih =>
    rw [List.cons_append, lowerNamesFrom, lowerNamesFrom, ih, closesName_append_blanks hGap]
    rfl

theorem isStripped_lowerNames {text : Text} (h : IsStripped text) :
    IsStripped (lowerNames text) := by
  intro c hc
  have hLast := congrArg List.getLast? (map_toLower_lowerNamesFrom false text)
  rw [List.getLast?_map, List.getLast?_map, ← lowerNames, Option.mem_def.mp hc] at hLast
  obtain ⟨d, hd, hSame⟩ := Option.map_eq_some_iff.mp hLast.symm
  rw [← isBlank_toLower, ← hSame, isBlank_toLower]
  exact h d hd

theorem strip_lowerNames (text : Text) : strip (lowerNames text) = lowerNames (strip text) := by
  rw [strip, strip, (takeWhile_dropWhile_lowerNames isBlank rfl text).2]
  generalize text.dropWhile isBlank = body
  obtain ⟨gap, hBody, hGap⟩ := exists_blank_behind body
  have hLower := lowerNamesFrom_append_blanks hGap false (stripEnd body)
  rw [← hBody, ← lowerNames, ← lowerNames] at hLower
  rw [hLower]
  exact (isStripped_lowerNames (isStripped_stripEnd body)).stripEnd_append hGap

theorem word?_eq_none_iff {text : Text} :
    word? text = none ↔ ∀ c ∈ text.head?, isWordChar c = false := by
  cases text with
  | nil => exact ⟨fun _ => nofun, fun _ => rfl⟩
  | cons c rest =>
    cases hWord : isWordChar c with
    | false => simp [word?, hWord]
    | true => simp [word?, hWord]

theorem word?_lowerNamesFrom (named : Bool) (text : Text) :
    word? (lowerNamesFrom named text) =
      (word? text).map fun read => (read.1.map (lowerIf named), lowerNamesFrom named read.2) := by
  have hHead (rest : Text) : (∀ c ∈ (lowerNamesFrom named rest).head?, isWordChar c = false) ↔
      ∀ c ∈ rest.head?, isWordChar c = false := by
    cases rest with
    | nil => rfl
    | cons c rest => simp [lowerNamesFrom, apply_lowerIf isWordChar_toLower]
  cases hWord : word? text with
  | none => exact word?_eq_none_iff.mpr ((hHead text).mpr (word?_eq_none_iff.mp hWord))
  | some pair =>
    obtain ⟨word, rest⟩ := pair
    obtain ⟨isWord, rfl, hRest⟩ := word?_eq_some_iff.mp hWord
    rw [lowerNamesFrom_append isWord.ne_quote]
    exact word?_eq_some_iff.mpr ⟨isWord_map_lowerIf.mpr isWord, rfl, (hHead rest).mpr hRest⟩

theorem name?_quote (rest : Text) :
    name? ('"' :: rest) =
      (word? rest).bind fun read => (after? ['"'] read.2).bind fun rest => some (read.1, rest) := by
  have hQuote : after? ['"'] ('"' :: rest) = some rest := rfl
  rw [name?, hQuote]
  rfl

theorem after?_quote_of_ne {c : Char} (h : c ≠ '"') (rest : Text) :
    after? ['"'] (c :: rest) = none := if_neg h.symm

theorem name?_of_ne {c : Char} (h : c ≠ '"') (rest : Text) : name? (c :: rest) = none := by
  rw [name?, after?_quote_of_ne h]
  rfl

theorem name?_lowerNamesFrom (named : Bool) (text : Text) :
    name? (lowerNamesFrom named text) =
      (name? text).map fun read => (read.1.map Char.toLower, lowerNamesBehind read.2) := by
  cases text with
  | nil => rfl
  | cons c rest =>
    by_cases hQuote : c = '"'
    · subst hQuote
      rw [lowerNamesFrom_quote, name?_quote, name?_quote, lowerNamesBehind, word?_lowerNamesFrom]
      cases hWord : word? rest with
      | none => rfl
      | some pair =>
        obtain ⟨word, after⟩ := pair
        obtain ⟨isWord, rfl, hAfter⟩ := word?_eq_some_iff.mp hWord
        rw [closesName_append isWord.2]
        cases after with
        | nil => rfl
        | cons d after =>
          rw [closesName_of_not_isWordChar (hAfter d rfl)]
          -- a word that no quote ends keeps its case, and neither text has a name here
          by_cases hEnd : d = '"'
          · subst hEnd
            rfl
          · have hEnd' : lowerIf false d ≠ '"' := hEnd
            rw [Option.map_some, beq_false_of_ne hEnd, Option.bind_some, Option.bind_some,
              lowerNamesFrom_of_ne hEnd, after?_quote_of_ne hEnd, after?_quote_of_ne hEnd']
            rfl
    · rw [lowerNamesFrom_of_ne hQuote, name?_of_ne hQuote,
        name?_of_ne ((lowerIf_eq_iff (by decide) named c).not.mpr hQuote)]
      rfl

theorem namePair?_lowerNamesFrom (named : Bool) (text : Text) :
    namePair? (lowerNamesFrom named text) =
      (namePair? text).map fun read =>
        ((read.1.1.map Char.toLower, read.1.2.map Char.toLower), lowerNamesBehind read.2) := by
  rw [namePair?, namePair?, name?_lowerNamesFrom]
  cases name? text with
  | none => rfl
  | some read =>
    obtain ⟨first, tail⟩ := read
    cases tail with
    | nil => rfl
    | cons mark tail =>
      have hMark : lowerIf (closesName (mark :: tail)) mark = '\n' ↔ mark = '\n' :=
        lowerIf_eq_iff (by decide) _ mark
      simp only [Option.map_some, Option.bind_eq_bind, Option.bind_some, lowerNamesBehind,
        lowerNamesFrom, hMark, name?_lowerNamesFrom]
      split
      · rfl
      · cases name? tail <;> rfl

theorem after?_lowerNames {lead : Text} (hLead : '"' ∉ lead) (text : Text) :
    after? lead (lowerNames text) = (after? lead text).map lowerNames := by
  induction lead generalizing text with
  | nil => rfl
  | cons c lead ih =>
    cases text with
    | nil => rfl
    | cons d rest =>
      by_cases hSame : c = d
      · subst hSame
        have hQuote : c ≠ '"' := fun h => hLead (h ▸ List.mem_cons_self)
        rw [lowerNames_cons hQuote, after?, after?, if_pos rfl, if_pos rfl]
        exact ih (fun h => hLead (List.mem_cons_of_mem c h)) rest
      · rw [after?, if_neg hSame]
        exact if_neg hSame

/-- What is looked for behind a name does not begin a further name. -/
theorem after?_lowerNamesBehind (c : Char) (lead : Text) (hWord : isWordChar c = false)
    (hLead : '"' ∉ c :: lead) (text : Text) :
    after? (c :: lead) (lowerNamesBehind text) = (after? (c :: lead) text).map lowerNames := by
  cases hCloses : closesName text with
  | false => rw [lowerNamesBehind, hCloses, ← lowerNames, after?_lowerNames hLead]
  | true =>
    cases text with
    | nil => cases hCloses
    | cons d rest =>
      have hHere : isWordChar d = true ∨ d = '"' := by
        cases hd : isWordChar d with
        | true => exact .inl rfl
        | false =>
          rw [closesName_of_not_isWordChar hd] at hCloses
          exact .inr (eq_of_beq hCloses)
      have hLower : isWordChar (lowerIf (closesName (d :: rest)) d) = true ∨
          lowerIf (closesName (d :: rest)) d = '"' :=
        hHere.imp (apply_lowerIf isWordChar_toLower _ d).trans
          (lowerIf_eq_iff (by decide) _ d).mpr
      have hOther {e : Char} (h : isWordChar e = true ∨ e = '"') : c ≠ e := by
        rintro rfl
        rcases h with h | rfl
        · cases hWord.symm.trans h
        · exact hLead List.mem_cons_self
      rw [after?, if_neg (hOther hHere)]
      exact if_neg (hOther hLower)

theorem itemEnd?_lowerNamesFrom (named : Bool) (text : Text) :
    itemEnd? (lowerNamesFrom named text) = itemEnd? text := by
  apply Option.ext
  intro hasNext
  rw [itemEnd?_eq_some_iff, itemEnd?_eq_some_iff]
  match text with
  | [] => rfl
  | [c] =>
    have hComma : lowerIf named c = ',' ↔ c = ',' := lowerIf_eq_iff (by decide) named c
    cases hasNext <;> simp [comma, lowerNamesFrom, hComma]
  | c :: d :: rest => cases hasNext <;> simp [comma, lowerNamesFrom]

end readers

end Text

namespace Shape

open Text

/-- The shape with all its names in lower case. -/
def lowered : Shape → Shape
  | aggregation function tableAlias column outputName hasNext =>
    .aggregation function (tableAlias.map Char.toLower) (column.map Char.toLower)
      (outputName.map Char.toLower) hasNext
  | table schema name tableAlias =>
    .table (schema.map Char.toLower) (name.map Char.toLower) (tableAlias.map Char.toLower)
  | join tableAlias column joinedAlias joinedColumn =>
    .join (tableAlias.map Char.toLower) (column.map Char.toLower) (joinedAlias.map Char.toLower)
      (joinedColumn.map Char.toLower)
  | condition tableAlias column =>
    .condition (tableAlias.map Char.toLower) (column.map Char.toLower)

theorem table?_lowerNames (text : Text) : table? (lowerNames text) = (table? text).map lowered := by
  have hAs (rest : Text) : after? " as ".toList (lowerNamesBehind rest) =
      (after? " as ".toList rest).map lowerNames :=
    after?_lowerNamesBehind ' ' "as ".toList rfl (by decide) rest
  rw [table?, table?, lowerNames, namePair?_lowerNamesFrom]
  cases namePair? text with
  | none => rfl
  | some pair =>
    simp only [Option.map_some, Option.bind_eq_bind, Option.bind_some, hAs]
    cases after? " as ".toList pair.2 with
    | none => rfl
    | some rest =>
      simp only [Option.map_some, Option.bind_some, lowerNames, name?_lowerNamesFrom]
      cases name? rest with
      | none => rfl
      | some read =>
        simp only [Option.map_some, Option.bind_some, lowerNamesBehind, itemEnd?_lowerNamesFrom]
        cases itemEnd? read.2 <;> rfl

theorem aggregation?_lowerNames (text : Text) :
    aggregation? (lowerNames text) = (aggregation? text).map lowered := by
  have hAs (rest : Text) : after? ") as ".toList (lowerNamesBehind rest) =
      (after? ") as ".toList rest).map lowerNames :=
    after?_lowerNamesBehind ')' " as ".toList rfl (by decide) rest
  obtain ⟨hTake, hDrop⟩ := takeWhile_dropWhile_lowerNames isFunctionChar rfl text
  rw [aggregation?, aggregation?, hTake, hDrop]
  generalize text.takeWhile isFunctionChar = opening
  cases hEmpty : opening.isEmpty with
  | true => rfl
  | false =>
    simp only [Bool.false_eq_true, if_false, lowerNames, namePair?_lowerNamesFrom]
    cases namePair? (text.dropWhile isFunctionChar) with
    | none => rfl
    | some pair =>
      simp only [Option.map_some, Option.bind_eq_bind, Option.bind_some, hAs]
      cases after? ") as ".toList pair.2 with
      | none => rfl
      | some rest =>
        simp only [Option.map_some, Option.bind_some, lowerNames, name?_lowerNamesFrom]
        cases name? rest with
        | none => rfl
        | some read =>
          simp only [Option.map_some, Option.bind_some, lowerNamesBehind, itemEnd?_lowerNamesFrom]
          cases itemEnd? read.2 <;> rfl

end Shape

/-- Two texts that differ at most in the case of ASCII letters of their names. -/
def Text.Respelled (text text' : Text) : Prop := lowerNames text = lowerNames text'

instance (text text' : Text) : Decidable (Text.Respelled text text') :=
  inferInstanceAs (Decidable (Text.lowerNames text = Text.lowerNames text'))

namespace Text.Respelled

variable {line line' : Text}

theorem symm (h : Respelled line line') : Respelled line' line := Eq.symm h

theorem eq_iff_of_not_mem {special : Text} (hQuote : '"' ∉ special) (h : Respelled line line') :
    line = special ↔ line' = special := by
  have hKept : ∀ {line line' : Text}, Respelled line line' → line = special → line' = special := by
    rintro line line' hSame rfl
    have hNone : '"' ∉ lowerNames line' := by
      rwa [← hSame, lowerNames_of_not_mem hQuote]
    rw [← lowerNames_of_not_mem hQuote, hSame]
    exact (lowerNames_of_not_mem fun hMem => hNone (quote_mem_lowerNamesFrom_iff.mpr hMem)).symm
  exact ⟨hKept h, hKept h.symm⟩

/-- For a reader that goes by the names in lower case. -/
theorem shape? {shape? : Text → Option Shape} {shape : Shape}
    (hRead : ∀ text, shape? (lowerNames text) = (shape? text).map Shape.lowered)
    (h : Respelled line line') (hShape : shape? (strip line) = some shape) :
    ∃ shape', shape? (strip line') = some shape' ∧ shape'.lowered = shape.lowered := by
  have hStrip : lowerNames (strip line) = lowerNames (strip line') := by
    rw [← strip_lowerNames, h, strip_lowerNames]
  have hBoth := congrArg shape? hStrip
  rw [hRead, hRead, hShape] at hBoth
  exact Option.map_eq_some_iff.mp hBoth.symm

theorem tableLine {schema name tableAlias : Text} (h : Respelled line line')
    (hLine : TableLine (strip line) schema name tableAlias) :
    ∃ schema' name' tableAlias', TableLine (strip line') schema' name' tableAlias' ∧
      schema'.map Char.toLower = schema.map Char.toLower ∧
      name'.map Char.toLower = name.map Char.toLower := by
  obtain ⟨shape', hShape', hLowered⟩ := h.shape? Shape.table?_lowerNames
    (Shape.table?_eq_some_iff.mpr ⟨_, _, _, hLine, rfl⟩)
  obtain ⟨schema', name', tableAlias', hLine', rfl⟩ := Shape.table?_eq_some_iff.mp hShape'
  obtain ⟨hSchema, hName, -⟩ := Shape.table.inj hLowered
  exact ⟨schema', name', tableAlias', hLine', hSchema, hName⟩

theorem aggregationLine {opening tableAlias column outputName : Text} {hasNext : Bool}
    (h : Respelled line line')
    (hLine : AggregationLine (strip line) opening tableAlias column outputName hasNext) :
    ∃ opening' tableAlias' column' outputName',
      AggregationLine (strip line') opening' tableAlias' column' outputName' hasNext ∧
        strip opening' = strip opening ∧
        column'.map Char.toLower = column.map Char.toLower := by
  obtain ⟨shape', hShape', hLowered⟩ := h.shape? Shape.aggregation?_lowerNames
    (Shape.aggregation?_eq_some_iff.mpr ⟨_, _, _, _, _, hLine, rfl⟩)
  obtain ⟨opening', tableAlias', column', outputName', hasNext', hLine', rfl⟩ :=
    Shape.aggregation?_eq_some_iff.mp hShape'
  obtain ⟨hOpening, -, hColumn, -, rfl⟩ := Shape.aggregation.inj hLowered
  exact ⟨opening', tableAlias', column', outputName', hLine', hOpening, hColumn⟩

end Text.Respelled

end QueryPatch
