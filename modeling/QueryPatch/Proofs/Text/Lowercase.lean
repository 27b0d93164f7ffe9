import QueryPatch.Text.Lowercase

/-! # ASCII capitals and lower case

Texts that differ only in the case of ASCII letters have the same lower-case form. A capital sigma
looks at the letters around it, but not at their case.
-/
set_option autoImplicit false

namespace QueryPatch.Text

/-- The code points of the ASCII capitals. -/
def capitals : List Nat := List.range' 65 26

theorem mem_capitals_of_bounds {c : Char} (hLow : c.val ≥ 'A'.val) (hHigh : c.val ≤ 'Z'.val) :
    c.toNat ∈ capitals := by
  rw [capitals, List.mem_range'_1]
  exact ⟨UInt32.le_iff_toNat_le.mp hLow, Nat.lt_succ_of_le (UInt32.le_iff_toNat_le.mp hHigh)⟩

/-- What does not tell apart the capitals from their lower-case forms does so for no letter. -/
theorem apply_toLower {β : Type} {f : Char → β}
    (h : ∀ n ∈ capitals, f (Char.ofNat n).toLower = f (Char.ofNat n)) (c : Char) :
    f c.toLower = f c := by
  by_cases hCapital : c.toNat ∈ capitals
  · rw [← Char.ofNat_toNat c]
    exact h _ hCapital
  · exact congrArg f (dif_neg fun hRange => hCapital (mem_capitals_of_bounds hRange.1 hRange.2))

theorem toLower_toLower (c : Char) : c.toLower.toLower = c.toLower := apply_toLower (by decide) c

theorem isUpper_toLower (c : Char) : c.toLower.isUpper = false := by
  cases hUpper : c.toLower.isUpper with
  | false => rfl
  | true =>
    obtain ⟨hLow, hHigh⟩ := of_decide_eq_true hUpper
    have hKept : ∀ n ∈ capitals, (Char.ofNat n).toLower ≠ Char.ofNat n := by decide
    refine absurd ?_ (hKept _ (mem_capitals_of_bounds hLow hHigh))
    rw [Char.ofNat_toNat]
    exact toLower_toLower c

theorem within_caseIgnorableBounds_toLower (c : Char) :
    within caseIgnorableBounds c.toLower = within caseIgnorableBounds c :=
  apply_toLower (by decide +kernel) c

theorem within_casedBounds_toLower (c : Char) :
    within casedBounds c.toLower = within casedBounds c :=
  apply_toLower (by decide +kernel) c

theorem lowercaseChar_toLower (c : Char) : lowercaseChar c.toLower = lowercaseChar c :=
  apply_toLower (by decide +kernel) c

theorem toLower_eq_iff {special : Char}
    (h : ∀ n ∈ capitals, (Char.ofNat n).toLower = special ↔ Char.ofNat n = special) (c : Char) :
    c.toLower = special ↔ c = special :=
  iff_of_eq (apply_toLower (f := (· = special)) (fun n hn => propext (h n hn)) c)

theorem leadsWithCased_map_toLower (text : Text) :
    leadsWithCased (text.map Char.toLower) = leadsWithCased text := by
  have hSame : within caseIgnorableBounds ∘ Char.toLower = within caseIgnorableBounds :=
    funext within_caseIgnorableBounds_toLower
  rw [leadsWithCased, leadsWithCased, List.dropWhile_map, hSame]
  cases text.dropWhile (within caseIgnorableBounds) with
  | nil => rfl
  | cons c rest => exact within_casedBounds_toLower c

theorem lowercaseBetween_toLower (before : Text) (c : Char) (after : Text) :
    lowercaseBetween (before.map Char.toLower) c.toLower (after.map Char.toLower) =
      lowercaseBetween before c after := by
  have hSigma : c.toLower = capitalSigma ↔ c = capitalSigma := toLower_eq_iff (by decide) c
  have hDotted : c.toLower = '\u0130' ↔ c = '\u0130' := toLower_eq_iff (by decide) c
  simp only [lowercaseBetween, hSigma, hDotted, leadsWithCased_map_toLower, lowercaseChar_toLower]

theorem lowercaseAfter_map_toLower (before text : Text) :
    lowercaseAfter (before.map Char.toLower) (text.map Char.toLower) =
      lowercaseAfter before text := by
  induction text generalizing before with
  | nil => rfl
  | cons c rest ih =>
    rw [List.map_cons, lowercaseAfter, lowercaseAfter, lowercaseBetween_toLower, ← ih (c :: before),
      List.map_cons]

theorem lowercase_map_toLower (text : Text) : lowercase (text.map Char.toLower) = lowercase text :=
  lowercaseAfter_map_toLower [] text

end QueryPatch.Text
