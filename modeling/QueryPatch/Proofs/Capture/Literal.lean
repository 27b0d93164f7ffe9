import QueryPatch.Proofs.Capture.Match

/-! # Quotes that are never closed

A reader of statements to which a quote that is never closed is ordinary text, and how the scanner
differs from it: to the scanner all from such a quote up to the last quote of the content belongs to
literals.
-/
set_option autoImplicit false

namespace QueryPatch

namespace Capture

/-- Inside a literal quotes stand in pairs. -/
inductive Inside : Text → Prop
  | nil : Inside []
  | pair {rest : Text} : Inside rest → Inside ('\'' :: '\'' :: rest)
  | other {c : Char} {rest : Text} : c ≠ '\'' → Inside rest → Inside (c :: rest)

/-- A literal that was opened in front of `text` is closed by the first quote that has no other one
to pair with, and then `left` is left. -/
def Closes (text left : Text) : Prop :=
  ∃ inside, Inside inside ∧ text = inside ++ '\'' :: left ∧ left.head? ≠ some '\''

section closes

variable {text left : Text} {c : Char}

theorem Closes.pair (h : Closes text left) : Closes ('\'' :: '\'' :: text) left := by
  obtain ⟨inside, hInside, rfl, hHead⟩ := h
  exact ⟨_, .pair hInside, rfl, hHead⟩

theorem Closes.other (hOther : c ≠ '\'') (h : Closes text left) : Closes (c :: text) left := by
  obtain ⟨inside, hInside, rfl, hHead⟩ := h
  exact ⟨_, .other hOther hInside, rfl, hHead⟩

theorem afterUnpaired?_other (hOther : c ≠ '\'') :
    afterUnpaired? (c :: text) = afterUnpaired? text := by
  rw [afterUnpaired?]
  · exact fun tail hc => absurd hc hOther
  · exact hOther

theorem Closes.afterUnpaired?_eq (h : Closes text left) : afterUnpaired? text = some left := by
  obtain ⟨inside, hInside, rfl, hHead⟩ := h
  induction hInside with
  | nil =>
    rw [List.nil_append, afterUnpaired?]
    rintro tail rfl
    exact hHead rfl
  | pair _ ih => exact ih
  | other hOther _ ih => exact (afterUnpaired?_other hOther).trans ih

theorem closes_of_afterUnpaired? (h : afterUnpaired? text = some left) : Closes text left := by
  induction text using quotes_induction with
  | nil => cases h
  | pair rest ih => exact (ih h).pair
  | quote rest hHead =>
    have hCloses : Closes ('\'' :: rest) rest := ⟨[], .nil, rfl, hHead⟩
    rwa [← Option.some.inj (hCloses.afterUnpaired?_eq.symm.trans h)]
  | other c rest hOther ih =>
    rw [afterUnpaired?_other hOther] at h
    exact (ih h).other hOther

def Unclosed (text : Text) : Prop := ∀ left, ¬Closes text left

theorem unclosed_iff : Unclosed text ↔ afterUnpaired? text = none := by
  rw [Option.eq_none_iff_forall_ne_some]
  exact forall_congr' fun left => not_congr ⟨Closes.afterUnpaired?_eq, closes_of_afterUnpaired?⟩

/-- Where a quote is never closed, quotes stand in pairs up to the end. -/
theorem Unclosed.inside (h : Unclosed text) : Inside text := by
  rw [unclosed_iff] at h
  induction text using quotes_induction with
  | nil => exact .nil
  | pair rest ih => exact .pair (ih h)
  | quote rest hHead =>
    have hCloses : Closes ('\'' :: rest) rest := ⟨[], .nil, rfl, hHead⟩
    cases hCloses.afterUnpaired?_eq.symm.trans h
  | other c rest hOther ih =>
    rw [afterUnpaired?_other hOther] at h
    exact .other hOther (ih h)

end closes

/-- Where a statement that goes on with a text stops, if a quote that is never closed is ordinary
text: at the first semicolon outside literals, or at the end. -/
inductive Stops : Text → Text → Prop
  | finish : Stops [] []
  | terminator (rest : Text) : Stops (';' :: rest) (';' :: rest)
  | literal {rest left stop : Text} : Closes rest left → Stops left stop → Stops ('\'' :: rest) stop
  | unclosed {rest stop : Text} : Unclosed rest → Stops rest stop → Stops ('\'' :: rest) stop
  | other {c : Char} {rest stop : Text} :
      c ≠ ';' → c ≠ '\'' → Stops rest stop → Stops (c :: rest) stop

/-- Before it stops, the first quote that is never closed is met. `rest` is left behind it. -/
inductive Meets : Text → Text → Prop
  | here {rest : Text} : Unclosed rest → Meets ('\'' :: rest) rest
  | literal {rest left later : Text} :
      Closes rest left → Meets left later → Meets ('\'' :: rest) later
  | other {c : Char} {rest later : Text} :
      c ≠ ';' → c ≠ '\'' → Meets rest later → Meets (c :: rest) later

section stops

variable {text rest stop stop' shielded plain : Text}

theorem Stops.unique (h : Stops text stop) (h' : Stops text stop') : stop = stop' := by
  induction h with
  | finish =>
    cases h'
    rfl
  | terminator =>
    cases h' with
    | terminator => rfl
    | other hSemicolon => exact absurd rfl hSemicolon
  | literal hCloses _ ih =>
    cases h' with
    | literal hCloses' hLeft =>
      have hSame := hCloses.afterUnpaired?_eq.symm.trans hCloses'.afterUnpaired?_eq
      rw [← Option.some.inj hSame] at hLeft
      exact ih hLeft
    | unclosed hUnclosed => exact absurd hCloses (hUnclosed _)
    | other _ hQuote => exact absurd rfl hQuote
  | unclosed hUnclosed _ ih =>
    cases h' with
    | literal hCloses => exact absurd hCloses (hUnclosed _)
    | unclosed _ hRest => exact ih hRest
    | other _ hQuote => exact absurd rfl hQuote
  | other hSemicolon hQuote _ ih =>
    cases h' with
    | terminator => exact absurd rfl hSemicolon
    | literal => exact absurd rfl hQuote
    | unclosed => exact absurd rfl hQuote
    | other _ _ hRest => exact ih hRest

/-- Behind a quote that is never closed no literal has a semicolon in it. -/
theorem Inside.stops (h : Inside text) : Stops text (text.dropWhile (· ≠ ';')) := by
  -- a pair opens a literal, which the pairs right behind it belong to
  suffices Stops text (text.dropWhile (· ≠ ';')) ∧
      ∃ left, Closes ('\'' :: text) left ∧ Stops left (text.dropWhile (· ≠ ';')) from this.1
  induction h with
  | nil => exact ⟨.finish, [], ⟨[], .nil, rfl, nofun⟩, .finish⟩
  | pair _ ih =>
    obtain ⟨-, left, hCloses, hLeft⟩ := ih
    exact ⟨.literal hCloses hLeft, left, hCloses.pair, hLeft⟩
  | @other c rest hOther _ ih =>
    have hHere : Stops (c :: rest) ((c :: rest).dropWhile (· ≠ ';')) := by
      by_cases hSemicolon : c = ';'
      · subst hSemicolon
        exact .terminator rest
      · rw [List.dropWhile_cons_of_pos (by simpa using hSemicolon)]
        exact .other hSemicolon hOther ih.1
    exact ⟨hHere, c :: rest, ⟨[], .nil, rfl, fun h => hOther (Option.some.inj h)⟩, hHere⟩

theorem Meets.unclosed (h : Meets text rest) : Unclosed rest := by
  induction h with
  | here hUnclosed => exact hUnclosed
  | literal _ _ ih => exact ih
  | other _ _ _ ih => exact ih

theorem Meets.stops (h : Meets text rest) (hRest : Stops rest stop) : Stops text stop := by
  induction h with
  | here hUnclosed => exact .unclosed hUnclosed hRest
  | literal hCloses _ ih => exact .literal hCloses (ih hRest)
  | other hSemicolon hQuote _ ih => exact .other hSemicolon hQuote (ih hRest)

theorem Closes.fromTerminator_quote_eq {left : Text} (h : Closes rest left) :
    fromTerminator ('\'' :: rest) = fromTerminator left := by
  rw [fromTerminator_quote, afterQuote_eq, afterLiteral?, h.afterUnpaired?_eq]
  rfl

theorem Meets.fromTerminator_eq (h : Meets text rest) :
    fromTerminator text = fromTerminator ('\'' :: rest) := by
  induction h with
  | here => rfl
  | literal hCloses _ ih => rw [hCloses.fromTerminator_quote_eq, ih]
  | other hSemicolon hQuote _ ih => rw [fromTerminator_other hSemicolon hQuote, ih]

/-- With every quote closed, the scanner stops where the reader stops. -/
theorem stops_fromTerminator (h : ∀ rest, ¬Meets text rest) : Stops text (fromTerminator text) := by
  -- by length, since both go on behind the literal
  induction hLength : text.length using Nat.strongRecOn generalizing text with
  | ind length ih =>
    subst hLength
    cases text with
    | nil =>
      rw [fromTerminator_nil]
      exact .finish
    | cons c rest =>
      by_cases hSemicolon : c = ';'
      · subst hSemicolon
        rw [fromTerminator_semicolon]
        exact .terminator rest
      by_cases hQuote : c = '\''
      · subst hQuote
        cases hAfter : afterUnpaired? rest with
        | none => exact absurd (.here (unclosed_iff.mpr hAfter)) (h rest)
        | some left =>
          have hCloses := closes_of_afterUnpaired? hAfter
          have hShorter := (afterUnpaired?_suffix hAfter).length_le
          rw [hCloses.fromTerminator_quote_eq]
          exact .literal hCloses (ih left.length (Nat.lt_succ_of_le hShorter)
            (fun later hLater => h later (.literal hCloses hLater)) rfl)
      · rw [fromTerminator_other hSemicolon hQuote]
        exact .other hSemicolon hQuote (ih rest.length (Nat.lt_succ_self _)
          (fun later hLater => h later (.other hSemicolon hQuote hLater)) rfl)

theorem fromTerminator_of_not_mem (h : '\'' ∉ plain) :
    fromTerminator plain = plain.dropWhile (· ≠ ';') := by
  induction plain with
  | nil => exact fromTerminator_nil
  | cons c plain ih =>
    rw [List.mem_cons, not_or] at h
    by_cases hSemicolon : c = ';'
    · subst hSemicolon
      exact fromTerminator_semicolon plain
    · rw [fromTerminator_other hSemicolon (Ne.symm h.1), ih h.2,
        List.dropWhile_cons_of_pos (by simpa using hSemicolon)]

theorem fromTerminator_quote_of_not_mem (h : '\'' ∉ plain) :
    fromTerminator ('\'' :: plain) = plain.dropWhile (· ≠ ';') := by
  rw [fromTerminator_quote, afterQuote_eq, afterLiteral?_eq_none_iff.mpr h, Option.getD_none,
    fromTerminator_of_not_mem h]

/-- The literal of a quote that is never closed goes up to the last quote there is. -/
theorem Inside.afterLiteral?_eq (h : Inside (shielded ++ '\'' :: plain)) (hPlain : '\'' ∉ plain) :
    afterLiteral? (shielded ++ '\'' :: plain) = some ('\'' :: plain) := by
  generalize hText : shielded ++ '\'' :: plain = text at h
  induction h generalizing shielded with
  | nil => simp at hText
  | @pair rest _ ih =>
    rw [afterLiteral?_pair]
    rcases List.append_eq_cons_iff.mp hText with ⟨-, hLast⟩ | ⟨more, rfl, hMore⟩
    · refine absurd ?_ hPlain
      rw [(List.cons.inj hLast).2]
      exact List.mem_cons_self
    rcases List.append_eq_cons_iff.mp hMore.symm with ⟨-, hLast⟩ | ⟨between, rfl, hBetween⟩
    · rw [← (List.cons.inj hLast).2, afterLiteral?_eq_none_iff.mpr hPlain, Option.none_or]
    · rw [ih hBetween.symm, Option.some_or]
  | @other c rest hOther _ ih =>
    rw [afterLiteral?_other hOther]
    rcases List.append_eq_cons_iff.mp hText with ⟨-, hLast⟩ | ⟨more, rfl, hMore⟩
    · exact absurd (List.cons.inj hLast).1.symm hOther
    · exact ih hMore.symm

theorem Meets.fromTerminator_eq_dropWhile (h : Meets text (shielded ++ '\'' :: plain))
    (hPlain : '\'' ∉ plain) : fromTerminator text = plain.dropWhile (· ≠ ';') := by
  rw [h.fromTerminator_eq, fromTerminator_quote, afterQuote_eq,
    h.unclosed.inside.afterLiteral?_eq hPlain, Option.getD_some,
    fromTerminator_quote_of_not_mem hPlain]

/-- A quote that is never closed ends the statement too late if a semicolon stands between it and
the last quote. -/
theorem Meets.stops_iff (h : Meets text (shielded ++ '\'' :: plain)) (hPlain : '\'' ∉ plain) :
    Stops text (fromTerminator text) ↔ ';' ∉ shielded := by
  rw [h.fromTerminator_eq_dropWhile hPlain]
  have hReader := h.stops h.unclosed.inside.stops
  constructor
  · intro hStops hMem
    have hLength := congrArg List.length (hStops.unique hReader)
    have hKept : shielded.dropWhile (· ≠ ';') ≠ [] := by
      intro hNone
      simpa using List.dropWhile_eq_nil_iff.mp hNone _ hMem
    have hShorter := (List.dropWhile_suffix (· ≠ ';') (l := plain)).length_le
    rw [List.dropWhile_append, if_neg (by simpa using hKept), List.length_append,
      List.length_cons] at hLength
    omega
  · intro hMem
    have hAll : shielded.dropWhile (· ≠ ';') = [] := by
      rw [List.dropWhile_eq_nil_iff]
      intro c hc
      simpa using fun hSemicolon : c = ';' => hMem (hSemicolon ▸ hc)
    rw [List.dropWhile_append, hAll, if_pos List.isEmpty_nil,
      List.dropWhile_cons_of_pos (by decide)] at hReader
    exact hReader

theorem Meets.append_of_all {front : Text}
    (hFront : front.all (fun c => c != ';' && c != '\'') = true) (h : Meets text rest) :
    Meets (front ++ text) rest := by
  induction front with
  | nil => exact h
  | cons c front ih =>
    rw [List.all_cons, Bool.and_eq_true, Bool.and_eq_true, bne_iff_ne, bne_iff_ne] at hFront
    obtain ⟨⟨hSemicolon, hQuote⟩, hRest⟩ := hFront
    exact .other hSemicolon hQuote (ih hRest)

end stops

section shields

open Pattern

/-- For any content and each match in it: if all quotes are closed, the statement stops at the first
semicolon outside literals. Where one is never closed, the first semicolon behind it is where a
reader stops to whom it is ordinary text; but the statement stops at the first semicolon behind the
last quote of the content. So the two agree if and only if no semicolon stands up to there. -/
theorem unclosed_shields (content : Text) :
    let hits := findAll statement closing (.atStart content)
    Capture.statements content = hits.map Match.statement ∧
      ∀ found ∈ hits,
        let text := found.start.left
        let stop := found.wanted.left
        (∃ captured, text = captured ++ stop ∧ found.statement.text = Text.stripEnd captured) ∧
        ((∀ rest, ¬Meets text rest) → Stops text stop) ∧
        ∀ rest, Meets text rest →
          Stops text (rest.dropWhile (· ≠ ';')) ∧
          ('\'' ∉ rest → stop = rest.dropWhile (· ≠ ';')) ∧
          ∀ shielded plain, rest = shielded ++ '\'' :: plain → '\'' ∉ plain →
            stop = plain.dropWhile (· ≠ ';') ∧ (Stops text stop ↔ ';' ∉ shielded) := by
  intro hits
  refine ⟨(map_statement_findAll content).symm, fun found hFound => ?_⟩
  obtain ⟨start, rfl, -⟩ := (searched_findAll _).exists_of_mem hFound
  have hCaptured := before_append_self (fromTerminator_suffix start.left)
  refine ⟨⟨_, hCaptured.symm, rfl⟩, stops_fromTerminator, fun rest hMeets =>
    ⟨hMeets.stops hMeets.unclosed.inside.stops, fun hRest => ?_, ?_⟩⟩
  · exact hMeets.fromTerminator_eq.trans (fromTerminator_quote_of_not_mem hRest)
  · rintro shielded plain rfl hPlain
    exact ⟨hMeets.fromTerminator_eq_dropWhile hPlain, hMeets.stops_iff hPlain⟩

theorem mem_findAll_atStart {content : Text} (h : startsStatement content = true) :
    Match.of (.atStart content) ∈ findAll statement closing (.atStart content) := by
  have hOpens : (Position.atStart content).Opens := ⟨rfl, h⟩
  rw [findAll_of_find?_eq_some (find?_eq_some_iff.mpr ⟨hOpens, rfl⟩)
    (Match.length_finish_of_lt hOpens.left_ne_nil)]
  exact List.mem_cons_self

/-- The content `select 'a''b;c`. -/
def unclosedBeforePair : Text := "select ".toList ++ '\'' :: ("a'".toList ++ '\'' :: "b;c".toList)

theorem unclosed_shields_unclosedBeforePair :
    Match.of (.atStart unclosedBeforePair) ∈
        findAll statement closing (.atStart unclosedBeforePair) ∧
      Meets unclosedBeforePair ("a'".toList ++ '\'' :: "b;c".toList) ∧
      Stops unclosedBeforePair ";c".toList := by
  have hMem : Match.of (.atStart unclosedBeforePair) ∈
      findAll statement closing (.atStart unclosedBeforePair) := mem_findAll_atStart (by decide)
  have hMeets : Meets unclosedBeforePair ("a'".toList ++ '\'' :: "b;c".toList) :=
    .append_of_all rfl (.here (unclosed_iff.mpr rfl))
  obtain ⟨-, hStops⟩ := unclosed_shields unclosedBeforePair
  obtain ⟨hStop, hIff⟩ := ((hStops _ hMem).2.2 _ hMeets).2.2 _ _ rfl (by decide)
  refine ⟨hMem, hMeets, ?_⟩
  rw [hStop] at hIff
  exact hIff.mpr (by decide)

/-- The content `select 'a;b''c;d`. -/
def shieldedSemicolon : Text :=
  "select ".toList ++ '\'' :: ("a;b'".toList ++ '\'' :: "c;d".toList)

/-- Its first quote is never closed, and the first semicolon behind it does not end the statement. -/
theorem shieldedSemicolon_not_stops :
    ⟨1, "select 'a;b''c".toList⟩ ∈ Capture.statements shieldedSemicolon ∧
      Match.of (.atStart shieldedSemicolon) ∈
        findAll statement closing (.atStart shieldedSemicolon) ∧
      Meets shieldedSemicolon ("a;b'".toList ++ '\'' :: "c;d".toList) ∧
      Stops shieldedSemicolon (";b'".toList ++ '\'' :: "c;d".toList) ∧
      ¬Stops shieldedSemicolon (Match.of (.atStart shieldedSemicolon)).wanted.left := by
  have hMem : Match.of (.atStart shieldedSemicolon) ∈
      findAll statement closing (.atStart shieldedSemicolon) := mem_findAll_atStart (by decide)
  have hMeets : Meets shieldedSemicolon ("a;b'".toList ++ '\'' :: "c;d".toList) :=
    .append_of_all rfl (.here (unclosed_iff.mpr rfl))
  have hStop : fromTerminator shieldedSemicolon = ";d".toList :=
    hMeets.fromTerminator_eq_dropWhile (by decide)
  refine ⟨?_, hMem, hMeets, hMeets.stops hMeets.unclosed.inside.stops, fun hStops => ?_⟩
  · have hStatement : Match.statement (.of (.atStart shieldedSemicolon)) =
        ⟨1, "select 'a;b''c".toList⟩ := by
      rw [Match.of, Match.statement, Position.upTo, Position.left_advance, Position.atStart, hStop]
      decide
    rw [← hStatement, ← map_statement_findAll]
    exact List.mem_map_of_mem hMem
  · exact (hMeets.stops_iff (by decide)).mp hStops (by decide)

end shields

end Capture

end QueryPatch
