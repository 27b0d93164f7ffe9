import QueryPatch.Proofs.Query.Classification
import Mathlib.Data.List.Pairwise

/-! # The order of the recognisers

In each clause at most one of the standard recognisers accepts a text. So they can be tried in any
order, and no line is classified a second time.
-/
set_option autoImplicit false

namespace QueryPatch

open Text

/-- Whether the recogniser is tried in the clause and finds its shape in the text. -/
def Recogniser.accepts (recogniser : Recogniser) (clause : Clause) (text : Text) : Bool :=
  recogniser.clauses.contains clause && (recogniser.shape? text).isSome

/-- A condition in a text from which no brackets are taken away. -/
def Shape.bareCondition? (text : Text) : Option Shape := do
  let ((tableAlias, column), rest) ← namePair? text
  if isEquality rest || isMembership rest then some (.condition tableAlias column) else none

namespace Shape

variable {text : Text} {shape shape' : Shape}

theorem condition?_eq_bareCondition? (text : Text) :
    condition? text = bareCondition? (unbracketed text) := rfl

/-- A name in quotes stands at the front, so there is no bracket to take away. -/
theorem condition?_of_bareCondition? (h : bareCondition? text = some shape) :
    condition? text = some shape := by
  obtain ⟨⟨⟨first, second⟩, rest⟩, hPair, -⟩ := Option.bind_eq_some_iff.mp h
  obtain ⟨-, -, mark, -, rfl⟩ := namePair?_eq_some_iff.mp hPair
  rw [condition?_eq_bareCondition?, unbracketed_bare, h]
  intro body hSame
  cases congrArg List.head? hSame

theorem bareCondition?_eq_none_of_join? (hJoin : join? text = some shape) :
    bareCondition? text = none := by
  rw [Option.eq_none_iff_forall_ne_some]
  intro other hOther
  cases (Clause.condition?_eq_none_of_join? hJoin).symm.trans (condition?_of_bareCondition? hOther)

end Shape

namespace Recogniser

variable {clause : Clause} {text : Text} {recogniser other : Recogniser}
  {recognisers : List Recogniser}

theorem accepts_eq_true_iff :
    recogniser.accepts clause text = true ↔
      recogniser.clauses.contains clause = true ∧ ∃ shape, recogniser.shape? text = some shape := by
  rw [accepts, Bool.and_eq_true, Option.isSome_iff_exists]

/-- One of the two does not accept the text. -/
def Apart (clause : Clause) (text : Text) (recogniser other : Recogniser) : Prop :=
  recogniser.accepts clause text = false ∨ other.accepts clause text = false

instance : Std.Symm (Apart clause text) := ⟨fun _ _ => Or.symm⟩

theorem accepts_of_not_tried (h : recogniser.clauses.contains clause = false) :
    recogniser.accepts clause text = false := by
  rw [accepts, h, Bool.false_and]

theorem accepts_of_none (h : recogniser.shape? text = none) :
    recogniser.accepts clause text = false := by
  rw [accepts, h, Option.isSome_none, Bool.and_false]

theorem apart_of_clauses
    (h : recogniser.clauses.contains clause = false ∨ other.clauses.contains clause = false) :
    Apart clause text recogniser other :=
  h.imp accepts_of_not_tried accepts_of_not_tried

theorem apart_join_condition : Apart clause text join condition := by
  cases hJoin : join.shape? text with
  | none => exact .inl (accepts_of_none hJoin)
  | some shape => exact .inr (accepts_of_none (Clause.condition?_eq_none_of_join? hJoin))

/-- Only the predicates have a clause in common. -/
theorem pairwise_standard (clause : Clause) (text : Text) :
    standard.Pairwise (Apart clause text) := by
  refine .cons ?_ (.cons ?_ (.cons ?_ (.cons nofun .nil)))
  · intro other hOther
    simp only [List.mem_cons, List.not_mem_nil, or_false] at hOther
    rcases hOther with rfl | rfl | rfl <;> exact apart_of_clauses (by cases clause <;> decide)
  · intro other hOther
    simp only [List.mem_cons, List.not_mem_nil, or_false] at hOther
    rcases hOther with rfl | rfl <;> exact apart_of_clauses (by cases clause <;> decide)
  · intro other hOther
    obtain rfl := List.mem_singleton.mp hOther
    exact apart_join_condition

theorem countP_le_one (h : recognisers.Pairwise (Apart clause text)) :
    recognisers.countP (·.accepts clause text) ≤ 1 := by
  induction h with
  | nil => exact Nat.zero_le 1
  | @cons first rest hFirst _ ih =>
    rw [List.countP_cons]
    cases hAccepts : first.accepts clause text with
    | false => exact ih
    | true =>
      have hNone : rest.countP (·.accepts clause text) = 0 := by
        rw [List.countP_eq_zero]
        intro other hOther hTrue
        rcases hFirst other hOther with hFalse | hFalse
        · cases hFalse.symm.trans hAccepts
        · cases hFalse.symm.trans hTrue
      rw [hNone]
      exact Nat.le_refl 1

end Recogniser

namespace Reading

variable {clause : Clause} {text : Text} {reading : Reading} {recogniser other : Recogniser}
  {recognisers recognisers' : List Recogniser}

theorem recognise_of_not_accepts (h : recogniser.accepts clause text = false) :
    reading.recognise clause text recogniser = reading := by
  cases hClause : recogniser.clauses.contains clause with
  | false => rw [recognise, hClause, if_neg Bool.false_ne_true]
  | true =>
    rw [Recogniser.accepts, hClause, Bool.true_and, Option.isSome_eq_false_iff,
      Option.isNone_iff_eq_none] at h
    exact recognise_none h

theorem recognise_comm (h : Recogniser.Apart clause text recogniser other) :
    (reading.recognise clause text recogniser).recognise clause text other =
      (reading.recognise clause text other).recognise clause text recogniser := by
  rcases h with h | h
  · rw [recognise_of_not_accepts h, recognise_of_not_accepts h]
  · rw [recognise_of_not_accepts h, recognise_of_not_accepts h]

/-- Recognisers of which no two accept the text can be tried in any order. -/
theorem judge_of_perm (hPerm : recognisers.Perm recognisers')
    (hApart : recognisers.Pairwise (Recogniser.Apart clause text)) :
    reading.judge recognisers clause text = reading.judge recognisers' clause text := by
  apply hPerm.foldl_eq'
  intro first hFirst second hSecond reading
  by_cases hSame : first = second
  · rw [hSame]
  · exact recognise_comm (hApart.forall hFirst hSecond hSame)

/-- Each recogniser that accepts the text reports it once. -/
theorem length_log_judge (recognisers : List Recogniser) (clause : Clause) (text : Text)
    (reading : Reading) :
    (reading.judge recognisers clause text).log.length =
      reading.log.length + recognisers.countP (·.accepts clause text) := by
  induction recognisers generalizing reading with
  | nil => rfl
  | cons recogniser rest ih =>
    rw [judge, List.foldl_cons]
    refine (ih _).trans ?_
    rw [List.countP_cons]
    cases hAccepts : recogniser.accepts clause text with
    | false =>
      rw [recognise_of_not_accepts hAccepts, if_neg Bool.false_ne_true, Nat.add_zero]
    | true =>
      obtain ⟨hClause, shape, hShape⟩ := Recogniser.accepts_eq_true_iff.mp hAccepts
      rw [recognise_some hClause hShape, accept, List.length_append, List.length_singleton,
        if_pos rfl, Nat.add_assoc, Nat.add_comm 1]

theorem role_ne_keyword_ofLine (line : Text) (keyword : Keyword) :
    (ofLine line).fragment.role ≠ .keyword keyword := nofun

theorem role_ne_keyword_judge (recognisers : List Recogniser) (clause : Clause) (text : Text)
    {reading : Reading} (h : ∀ keyword : Keyword, reading.fragment.role ≠ .keyword keyword)
    (keyword : Keyword) :
    (reading.judge recognisers clause text).fragment.role ≠ .keyword keyword := by
  induction recognisers generalizing reading with
  | nil => exact h keyword
  | cons recogniser rest ih =>
    apply ih
    rw [recognise]
    split
    · split
      · rename_i shape _
        intro other hRole
        cases shape <;> cases hRole
      · exact h
    · exact h

/-- How often the line has been classified. A recogniser that classifies a line reports it; a
keyword line is classified without them. -/
def timesClassified (reading : Reading) : Nat :=
  reading.log.length +
    match reading.fragment.role with
    | .keyword _ => 1
    | _ => 0

theorem timesClassified_readLine (recognisers : List Recogniser) (clause : Clause) (line : Text) :
    (readLine recognisers clause line).timesClassified =
      match Keyword.ofText? line with
      | some _ => 1
      | none => recognisers.countP (·.accepts clause (strip line)) := by
  rw [readLine]
  cases Keyword.ofText? line with
  | some keyword => rfl
  | none =>
    have hRole := role_ne_keyword_judge recognisers clause (strip line)
      (role_ne_keyword_ofLine line)
    have hLength := length_log_judge recognisers clause (strip line) (.ofLine line)
    dsimp only
    rw [timesClassified, ofPlainLine, hLength]
    split
    · rename_i keyword hKeyword
      exact absurd hKeyword (hRole keyword)
    · exact Nat.zero_add _

end Reading

section arrangement

variable {recognisers : List Recogniser}

theorem Recogniser.pairwise_of_perm (h : recognisers.Perm standard) (clause : Clause)
    (text : Text) : recognisers.Pairwise (Apart clause text) :=
  (h.pairwise_iff fun {_ _} => Std.Symm.symm _ _).mpr (pairwise_standard clause text)

/-- A plain line is read as it is when the standard recognisers are attempted on it one by one, in
any order, and none of them ends in a fault. -/
theorem Reading.attemptAll_of_perm (h : recognisers.Perm Recogniser.standard) (clause : Clause)
    (line : Text) :
    attemptAll clause (strip line) (ofLine line) (recognisers.map .recogniser) =
      (ofPlainLine Recogniser.standard clause line, none) := by
  rw [attemptAll_recognisers, ofPlainLine,
    judge_of_perm h (Recogniser.pairwise_of_perm h clause (strip line))]

theorem readLine_of_perm (h : recognisers.Perm Recogniser.standard) (clause : Clause)
    (line : Text) :
    readLine recognisers clause line = readLine Recogniser.standard clause line := by
  rw [readLine, readLine]
  cases Keyword.ofText? line with
  | some keyword => rfl
  | none => exact Reading.judge_of_perm h (Recogniser.pairwise_of_perm h clause (strip line))

theorem readLines_of_perm (h : recognisers.Perm Recogniser.standard) (clause : Clause)
    (lines : List Text) :
    readLines recognisers clause lines = readLines Recogniser.standard clause lines := by
  apply List.ext_getElem?
  intro line
  rw [getElem?_readLines, getElem?_readLines]
  exact congrArg (lines[line]?.map ·) (funext (readLine_of_perm h _))

theorem timesClassified_readLine_le_one (h : recognisers.Perm Recogniser.standard)
    (clause : Clause) (line : Text) : (readLine recognisers clause line).timesClassified ≤ 1 := by
  rw [Reading.timesClassified_readLine]
  cases Keyword.ofText? line with
  | some keyword => exact Nat.le_refl 1
  | none => exact Recogniser.countP_le_one (Recogniser.pairwise_of_perm h clause (strip line))

end arrangement

namespace Query

/-- The standard recognisers can be tried in any order. At most one of them accepts a text in a
clause, and a join is no condition, in brackets or not; so every query is read alike, and none of
its lines is classified twice. -/
theorem readings?_of_perm (recognisers : List Recogniser)
    (hPerm : recognisers.Perm Recogniser.standard) :
    (∀ clause text, recognisers.countP (·.accepts clause text) ≤ 1) ∧
      (∀ text shape, Shape.join? text = some shape →
        Shape.condition? text = none ∧ Shape.bareCondition? text = none) ∧
      (∀ text shape, Shape.join? (unbracketed text) = some shape →
        Shape.condition? text = none) ∧
      ∀ separator text,
        (readings? recognisers separator text).map ofReadings = ofText? separator text ∧
        ∀ readings, readings? recognisers separator text = .ok readings →
          ∀ reading ∈ readings, reading.timesClassified ≤ 1 := by
  refine ⟨fun clause text => Recogniser.countP_le_one (Recogniser.pairwise_of_perm hPerm ..),
    fun text shape hJoin => ⟨Clause.condition?_eq_none_of_join? hJoin,
      Shape.bareCondition?_eq_none_of_join? hJoin⟩,
    fun text shape hJoin => ?_, fun separator text => ⟨?_, fun readings hReadings => ?_⟩⟩
  · rw [Shape.condition?_eq_bareCondition?]
    exact Shape.bareCondition?_eq_none_of_join? hJoin
  · rw [ofText?, readings?, readings?]
    cases split separator text with
    | none => rfl
    | some lines =>
      dsimp only
      rw [readLines_of_perm hPerm]
  · rw [readings?] at hReadings
    cases hSplit : split separator text with
    | none =>
      rw [hSplit] at hReadings
      cases hReadings
    | some lines =>
      rw [hSplit] at hReadings
      obtain rfl := Except.ok.inj hReadings
      intro reading hReading
      obtain ⟨line, hLine⟩ := List.mem_iff_getElem?.mp hReading
      rw [getElem?_readLines, Option.map_eq_some_iff] at hLine
      obtain ⟨content, -, rfl⟩ := hLine
      exact timesClassified_readLine_le_one hPerm _ content

def joinAndCondition : List Text :=
  ["where", "\"t\".\"x\" = \"u\".\"x\"", "and", "(\"t\".\"x\" = 5)"]

/-- The conditions are looked for first here, and the join is still found. -/
theorem readings?_of_perm_reverse :
    Recogniser.standard.reverse.Perm Recogniser.standard ∧
      (readings? Recogniser.standard.reverse "\n" (join "\n" joinAndCondition)).map ofReadings =
        .ok (ofLines joinAndCondition) ∧
      (ofLines joinAndCondition).fragments.map (·.role) =
        [.keyword .filter, .join, .keyword .conjunct, .condition] := by
  have hPerm : Recogniser.standard.reverse.Perm Recogniser.standard := List.reverse_perm _
  have hSplit : split "\n" (join "\n" joinAndCondition) = some joinAndCondition :=
    (split_eq_some_iff (by decide)).mpr ⟨Cut.of_not_mem (by decide) (by decide), rfl⟩
  obtain ⟨-, -, -, hRead⟩ := readings?_of_perm Recogniser.standard.reverse hPerm
  exact ⟨hPerm, (hRead "\n" _).1.trans (ofText?_eq_ok hSplit), rfl⟩

end Query

end QueryPatch
