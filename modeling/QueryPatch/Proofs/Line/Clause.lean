import QueryPatch.Line.Reading

/-! # The clause of a line

Reading goes through the lines with the clause as its state. What a line is read as depends only on
the keyword line that stands nearest before it.
-/
set_option autoImplicit false

namespace QueryPatch

/-- The six keywords stand alone on their lines, so no blank is stripped before the comparison. -/
def NearestKeyword (lines : List Text) (line : Nat) (keyword : Keyword) : Prop :=
  ∃ earlier < line, lines[earlier]? = some keyword.text ∧
    ∀ between, earlier < between → between < line →
      ∀ other : Keyword, lines[between]? ≠ some other.text

def Clause.next (clause : Clause) (line : Text) : Clause :=
  match Keyword.ofText? line with
  | some keyword => keyword.opens
  | none => clause

def Clause.after (clause : Clause) (lines : List Text) : Clause := lines.foldl Clause.next clause

def readLine (recognisers : List Recogniser) (clause : Clause) (line : Text) : Reading :=
  match Keyword.ofText? line with
  | some keyword => .ofKeyword keyword line
  | none => .ofPlainLine recognisers clause line

theorem Keyword.ofText?_eq_none_iff {line : Text} :
    ofText? line = none ↔ ∀ keyword : Keyword, line ≠ keyword.text := by
  rw [Option.eq_none_iff_forall_ne_some]
  exact forall_congr' fun keyword => not_congr ofText?_eq_some_iff

theorem Keyword.text_injective : Function.Injective Keyword.text := by
  intro first second h
  have hFirst := ofText?_text first
  rw [h, ofText?_text second] at hFirst
  exact (Option.some.inj hFirst).symm

theorem readLines_cons (recognisers : List Recogniser) (clause : Clause) (line : Text)
    (rest : List Text) :
    readLines recognisers clause (line :: rest) =
      readLine recognisers clause line :: readLines recognisers (clause.next line) rest := by
  rw [readLines, readLine, Clause.next]
  cases Keyword.ofText? line <;> rfl

theorem getElem?_readLines (recognisers : List Recogniser) (clause : Clause) (lines : List Text)
    (line : Nat) :
    (readLines recognisers clause lines)[line]? =
      lines[line]?.map (readLine recognisers (clause.after (lines.take line))) := by
  induction lines generalizing clause line with
  | nil => rfl
  | cons first rest ih =>
    rw [readLines_cons]
    cases line with
    | zero => rfl
    | succ line =>
      rw [List.getElem?_cons_succ, List.getElem?_cons_succ, ih, List.take_succ_cons]
      rfl

theorem nearestKeyword_succ_iff {lines : List Text} {line : Nat} {keyword : Keyword} :
    NearestKeyword lines (line + 1) keyword ↔
      lines[line]? = some keyword.text ∨
        (∀ other : Keyword, lines[line]? ≠ some other.text) ∧
          NearestKeyword lines line keyword := by
  constructor
  · rintro ⟨earlier, hEarlier, hKeyword, hBetween⟩
    rcases Nat.lt_succ_iff_lt_or_eq.mp hEarlier with hLess | rfl
    · exact .inr ⟨hBetween line hLess (Nat.lt_succ_self line), earlier, hLess, hKeyword,
        fun between h₁ h₂ => hBetween between h₁ (Nat.lt_succ_of_lt h₂)⟩
    · exact .inl hKeyword
  · rintro (hKeyword | ⟨hLine, earlier, hEarlier, hKeyword, hBetween⟩)
    · exact ⟨line, Nat.lt_succ_self line, hKeyword, fun between h₁ h₂ => by omega⟩
    · refine ⟨earlier, Nat.lt_succ_of_lt hEarlier, hKeyword, ?_⟩
      intro between h₁ h₂
      rcases Nat.lt_succ_iff_lt_or_eq.mp h₂ with hLess | rfl
      · exact hBetween between h₁ hLess
      · exact hLine

theorem Clause.after_take_succ (clause : Clause) (lines : List Text) (line : Nat) :
    clause.after (lines.take (line + 1)) =
      match lines[line]? with
      | some text => (clause.after (lines.take line)).next text
      | none => clause.after (lines.take line) := by
  rw [List.take_add_one, Clause.after, List.foldl_append]
  cases lines[line]? <;> rfl

theorem Clause.after_take_eq_iff {lines : List Text} {line : Nat} {clause : Clause}
    (h : clause ≠ .outside) :
    Clause.outside.after (lines.take line) = clause ↔
      ∃ keyword, keyword.opens = clause ∧ NearestKeyword lines line keyword := by
  induction line with
  | zero =>
    constructor
    · intro hAfter
      exact absurd hAfter.symm h
    · rintro ⟨_, _, earlier, hEarlier, _⟩
      exact absurd hEarlier (Nat.not_lt_zero earlier)
  | succ line ih =>
    rw [Clause.after_take_succ]
    simp only [nearestKeyword_succ_iff]
    cases hText : lines[line]? with
    | none => simpa using ih
    | some text =>
      cases hKeyword : Keyword.ofText? text with
      | some keyword =>
        obtain rfl := Keyword.ofText?_eq_some_iff.mp hKeyword
        have hNext : Clause.next (Clause.outside.after (lines.take line)) keyword.text =
            keyword.opens := by
          rw [Clause.next, hKeyword]
        dsimp only
        rw [hNext]
        constructor
        · rintro rfl
          exact ⟨keyword, rfl, .inl rfl⟩
        · rintro ⟨other, rfl, hSame | ⟨hNone, -⟩⟩
          · rw [Keyword.text_injective (Option.some.inj hSame)]
          · exact absurd rfl (hNone keyword)
      | none =>
        have hPlain := Keyword.ofText?_eq_none_iff.mp hKeyword
        have hNext : Clause.next (Clause.outside.after (lines.take line)) text =
            Clause.outside.after (lines.take line) := by
          rw [Clause.next, hKeyword]
        dsimp only
        rw [hNext, ih]
        simp [hPlain]

/-- For a keyword that alone opens its clause. -/
theorem Clause.after_take_eq_opens_iff {lines : List Text} {line : Nat} (keyword : Keyword)
    (hClause : keyword.opens ≠ .outside)
    (hOnly : ∀ other : Keyword, other.opens = keyword.opens → other = keyword) :
    Clause.outside.after (lines.take line) = keyword.opens ↔ NearestKeyword lines line keyword := by
  rw [after_take_eq_iff hClause]
  constructor
  · rintro ⟨other, hOpens, hNearest⟩
    exact hOnly other hOpens ▸ hNearest
  · exact fun hNearest => ⟨keyword, rfl, hNearest⟩

theorem Clause.after_take_eq_select_iff {lines : List Text} {line : Nat} :
    Clause.outside.after (lines.take line) = .select ↔ NearestKeyword lines line .select :=
  after_take_eq_opens_iff .select (by decide) fun other h => by
    cases other <;> first | rfl | cases h

theorem Clause.after_take_eq_source_iff {lines : List Text} {line : Nat} :
    Clause.outside.after (lines.take line) = .source ↔ NearestKeyword lines line .source :=
  after_take_eq_opens_iff .source (by decide) fun other h => by
    cases other <;> first | rfl | cases h

end QueryPatch
