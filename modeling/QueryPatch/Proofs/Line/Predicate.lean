import QueryPatch.Proofs.Line.Grammar

/-! # The grammar of predicates

The layouts of join and condition lines, written out, and that the readers accept exactly these. A
join has a name in quotes where a condition has a value without double quotes, so no line is both.
-/
set_option autoImplicit false

namespace QueryPatch

namespace Text

/-- A text without the brackets around it. If brackets do not stand at both of its ends, nothing is
taken away; inner brackets stay. -/
inductive Unbracketed : Text → Text → Prop
  | brackets (body : Text) : Unbracketed ('(' :: body ++ [')']) body
  | bare {text : Text} : (∀ body, text ≠ '(' :: body ++ [')']) → Unbracketed text text

theorem unbracketed_brackets (body : Text) : unbracketed ('(' :: body ++ [')']) = body := by
  simp [unbracketed]

theorem unbracketed_bare {text : Text} (h : ∀ body, text ≠ '(' :: body ++ [')']) :
    unbracketed text = text := by
  unfold unbracketed
  split
  · rename_i rest
    split
    · rename_i hLast
      obtain ⟨body, rfl⟩ := List.getLast?_eq_some_iff.mp hLast
      exact absurd rfl (h body)
    · rfl
  · rfl

theorem unbracketed_eq_iff {text body : Text} : unbracketed text = body ↔ Unbracketed text body := by
  constructor
  · rintro rfl
    by_cases h : ∃ body, text = '(' :: body ++ [')']
    · obtain ⟨body, rfl⟩ := h
      rw [unbracketed_brackets]
      exact .brackets body
    · have hBare := not_exists.mp h
      rw [unbracketed_bare hBare]
      exact .bare hBare
  · rintro (body | hBare)
    · exact unbracketed_brackets body
    · exact unbracketed_bare hBare

end Text

open Text

/-- `"tableAlias" mark "column" = "joinedAlias" mark "joinedColumn"`, without the blanks around the
marks. The two marks need not be the same. -/
structure JoinLine (line tableAlias column joinedAlias joinedColumn : Text) : Prop where
  tableAlias_isWord : IsWord tableAlias
  column_isWord : IsWord column
  joinedAlias_isWord : IsWord joinedAlias
  joinedColumn_isWord : IsWord joinedColumn
  layout : ∃ mark joinedMark, mark ≠ '\n' ∧ joinedMark ≠ '\n' ∧
    line = inQuotes tableAlias ++ mark :: inQuotes column ++ " = ".toList ++
      (inQuotes joinedAlias ++ joinedMark :: inQuotes joinedColumn)

/-- ` = ` and a value, or ` in ` and a list of values in brackets. -/
inductive Comparison : Text → Prop
  | equality {value : Text} :
      value ≠ [] → (∀ c ∈ value, isWordChar c = true ∨ c = '\'' ∨ c = ' ') →
      Comparison (" = ".toList ++ value)
  | membership {values : Text} :
      values ≠ [] → (∀ c ∈ values, isWordChar c = true ∨ c = '\'' ∨ c = ' ' ∨ c = ',') →
      Comparison (" in (".toList ++ values ++ [')'])

/-- `"tableAlias" mark "column"` and a comparison, perhaps all of it in brackets, without the blanks
around the mark. -/
structure ConditionLine (line tableAlias column : Text) : Prop where
  tableAlias_isWord : IsWord tableAlias
  column_isWord : IsWord column
  layout : ∃ mark comparison, mark ≠ '\n' ∧ Comparison comparison ∧
    Unbracketed line (inQuotes tableAlias ++ mark :: inQuotes column ++ comparison)

namespace Shape

theorem isValueChar_iff (c : Char) :
    isValueChar c = true ↔ isWordChar c = true ∨ c = '\'' ∨ c = ' ' := by
  simp [isValueChar, or_assoc]

theorem isListChar_iff (c : Char) :
    isListChar c = true ↔ isWordChar c = true ∨ c = '\'' ∨ c = ' ' ∨ c = ',' := by
  simp [isListChar, isValueChar_iff, or_assoc]

theorem isEquality_eq_true_iff {text : Text} :
    isEquality text = true ↔ ∃ value, value ≠ [] ∧
      (∀ c ∈ value, isWordChar c = true ∨ c = '\'' ∨ c = ' ') ∧ text = " = ".toList ++ value := by
  simp only [← isValueChar_iff]
  rw [isEquality]
  constructor
  · intro h
    split at h
    · rename_i value hAfter
      rw [Bool.and_eq_true, Bool.not_eq_true', List.isEmpty_eq_false_iff, List.all_eq_true] at h
      exact ⟨value, h.1, h.2, after?_eq_some_iff.mp hAfter⟩
    · cases h
  · rintro ⟨value, hne, hValue, rfl⟩
    rw [after?_eq_some_iff.mpr rfl]
    dsimp only
    rw [Bool.and_eq_true, Bool.not_eq_true', List.isEmpty_eq_false_iff, List.all_eq_true]
    exact ⟨hne, hValue⟩

theorem isMembership_eq_true_iff {text : Text} :
    isMembership text = true ↔ ∃ values, values ≠ [] ∧
      (∀ c ∈ values, isWordChar c = true ∨ c = '\'' ∨ c = ' ' ∨ c = ',') ∧
        text = " in (".toList ++ values ++ [')'] := by
  simp only [← isListChar_iff]
  rw [isMembership]
  constructor
  · intro h
    split at h
    · rename_i body hAfter
      have hBody := body.takeWhile_append_dropWhile (p := isListChar)
      rw [Bool.and_eq_true, Bool.not_eq_true', List.isEmpty_eq_false_iff, beq_iff_eq] at h
      obtain ⟨hne, hEnd⟩ := h
      rw [hEnd] at hBody
      refine ⟨body.takeWhile isListChar, hne, fun c hc => List.mem_takeWhile_imp hc, ?_⟩
      rw [after?_eq_some_iff.mp hAfter, List.append_assoc, hBody]
    · cases h
  · rintro ⟨values, hne, hValues, rfl⟩
    have hStop : ∀ c ∈ [')'].head?, isListChar c = false := by
      rintro c ⟨⟩
      decide
    obtain ⟨hTake, hDrop⟩ := takeWhile_dropWhile_append hValues hStop
    rw [List.append_assoc, after?_eq_some_iff.mpr rfl]
    dsimp only
    rw [hTake, hDrop, Bool.and_eq_true, Bool.not_eq_true', List.isEmpty_eq_false_iff, beq_iff_eq]
    exact ⟨hne, rfl⟩

theorem comparison_iff {text : Text} :
    (isEquality text || isMembership text) = true ↔ Comparison text := by
  rw [Bool.or_eq_true, isEquality_eq_true_iff, isMembership_eq_true_iff]
  constructor
  · rintro (⟨value, hne, hValue, rfl⟩ | ⟨values, hne, hValues, rfl⟩)
    · exact .equality hne hValue
    · exact .membership hne hValues
  · rintro (⟨hne, hValue⟩ | ⟨hne, hValues⟩)
    · exact .inl ⟨_, hne, hValue, rfl⟩
    · exact .inr ⟨_, hne, hValues, rfl⟩

theorem join?_eq_some_iff {line : Text} {shape : Shape} :
    join? line = some shape ↔
      ∃ tableAlias column joinedAlias joinedColumn,
        JoinLine line tableAlias column joinedAlias joinedColumn ∧
          shape = .join tableAlias column joinedAlias joinedColumn := by
  simp only [join?, Option.bind_eq_bind, Option.bind_eq_some_iff]
  constructor
  · rintro ⟨⟨⟨tableAlias, column⟩, rest⟩, hPair, joined, hEquals,
      ⟨⟨joinedAlias, joinedColumn⟩, tail⟩, hJoined, hEnd⟩
    obtain ⟨hAlias, hColumn, mark, hMark, hLine⟩ := namePair?_eq_some_iff.mp hPair
    obtain ⟨hAlias', hColumn', mark', hMark', hTail⟩ := namePair?_eq_some_iff.mp hJoined
    have hEquals : rest = " = ".toList ++ joined := after?_eq_some_iff.mp hEquals
    dsimp only at hEnd
    split at hEnd
    · rename_i hEmpty
      rw [List.isEmpty_iff.mp hEmpty, List.append_nil] at hTail
      refine ⟨tableAlias, column, joinedAlias, joinedColumn,
        ⟨hAlias, hColumn, hAlias', hColumn', mark, mark', hMark, hMark', ?_⟩,
        (Option.some.inj hEnd).symm⟩
      rw [hLine, hEquals, hTail, List.append_assoc _ " = ".toList]
    · cases hEnd
  · rintro ⟨tableAlias, column, joinedAlias, joinedColumn,
      ⟨hAlias, hColumn, hAlias', hColumn', mark, mark', hMark, hMark', rfl⟩, rfl⟩
    refine ⟨((tableAlias, column),
        " = ".toList ++ (inQuotes joinedAlias ++ mark' :: inQuotes joinedColumn)),
      namePair?_eq_some_iff.mpr ⟨hAlias, hColumn, mark, hMark, List.append_assoc ..⟩,
      inQuotes joinedAlias ++ mark' :: inQuotes joinedColumn, after?_eq_some_iff.mpr rfl,
      ((joinedAlias, joinedColumn), []),
      namePair?_eq_some_iff.mpr ⟨hAlias', hColumn', mark', hMark', ?_⟩, rfl⟩
    rw [List.append_nil]

theorem condition?_eq_some_iff {line : Text} {shape : Shape} :
    condition? line = some shape ↔
      ∃ tableAlias column,
        ConditionLine line tableAlias column ∧ shape = .condition tableAlias column := by
  simp only [condition?, Option.bind_eq_bind, Option.bind_eq_some_iff]
  constructor
  · rintro ⟨⟨⟨tableAlias, column⟩, rest⟩, hPair, hEnd⟩
    obtain ⟨hAlias, hColumn, mark, hMark, hBody⟩ := namePair?_eq_some_iff.mp hPair
    dsimp only at hEnd
    split at hEnd
    · rename_i hComparison
      exact ⟨tableAlias, column, ⟨hAlias, hColumn, mark, rest, hMark,
        comparison_iff.mp hComparison, unbracketed_eq_iff.mp hBody⟩, (Option.some.inj hEnd).symm⟩
    · cases hEnd
  · rintro ⟨tableAlias, column,
      ⟨hAlias, hColumn, mark, comparison, hMark, hComparison, hBody⟩, rfl⟩
    refine ⟨((tableAlias, column), comparison), namePair?_eq_some_iff.mpr
      ⟨hAlias, hColumn, mark, hMark, unbracketed_eq_iff.mpr hBody⟩, ?_⟩
    rw [if_pos (comparison_iff.mpr hComparison)]

end Shape

section unique

variable {line tableAlias tableAlias' column column' joinedAlias joinedAlias' : Text}
  {joinedColumn joinedColumn' : Text}

theorem JoinLine.unique (h : JoinLine line tableAlias column joinedAlias joinedColumn)
    (h' : JoinLine line tableAlias' column' joinedAlias' joinedColumn') :
    tableAlias = tableAlias' ∧ column = column' ∧ joinedAlias = joinedAlias' ∧
      joinedColumn = joinedColumn' := by
  have hShape := Shape.join?_eq_some_iff.mpr ⟨_, _, _, _, h, rfl⟩
  rw [Shape.join?_eq_some_iff.mpr ⟨_, _, _, _, h', rfl⟩] at hShape
  cases hShape
  exact ⟨rfl, rfl, rfl, rfl⟩

theorem ConditionLine.unique (h : ConditionLine line tableAlias column)
    (h' : ConditionLine line tableAlias' column') : tableAlias = tableAlias' ∧ column = column' := by
  have hShape := Shape.condition?_eq_some_iff.mpr ⟨_, _, h, rfl⟩
  rw [Shape.condition?_eq_some_iff.mpr ⟨_, _, h', rfl⟩] at hShape
  cases hShape
  exact ⟨rfl, rfl⟩

theorem JoinLine.not_conditionLine
    (h : JoinLine line tableAlias column joinedAlias joinedColumn) :
    ¬ ConditionLine line tableAlias' column' := by
  rintro ⟨hAlias', hColumn', mark', comparison, hMark', hComparison, hBody⟩
  obtain ⟨mark, joinedMark, hMark, -, hLine⟩ := h.layout
  cases hBody with
  | brackets body =>
    have hHead := congrArg List.head? hLine
    cases hHead
  | bare =>
    -- one pair of names opens the line, so what follows it is read in both ways
    have hPair := namePair?_eq_some_iff.mpr
      ⟨h.tableAlias_isWord, h.column_isWord, mark, hMark, hLine.trans (List.append_assoc ..)⟩
    rw [namePair?_eq_some_iff.mpr ⟨hAlias', hColumn', mark', hMark', rfl⟩] at hPair
    obtain ⟨-, hRest⟩ := Prod.mk.inj (Option.some.inj hPair)
    cases hComparison with
    | @equality value _ hValue =>
      have hQuote : '"' ∈ value := by
        rw [List.append_cancel_left hRest]
        exact List.mem_cons_self
      have hNot := hValue '"' hQuote
      revert hNot
      decide
    | membership =>
      have hSecond := congrArg (fun text : Text => text[1]?) hRest
      cases hSecond

end unique

end QueryPatch
