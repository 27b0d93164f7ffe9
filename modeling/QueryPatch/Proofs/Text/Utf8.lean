import QueryPatch.Text.Utf8

/-! # Bytes read back

A text is read from the bytes that were written for it: a leading byte says how many bytes follow,
and together they give the number of the character back.
-/
set_option autoImplicit false

namespace QueryPatch.Text

theorem toNat_ofByte {number : Nat} (h : number < 0x100) : (UInt8.ofNat number).toNat = number :=
  UInt8.toNat_ofNat_of_lt' h

/-- The numbers of characters leave out the surrogates. -/
theorem toNat_cases (c : Char) :
    c.toNat < 0xd800 ∨ 0xdfff < c.toNat ∧ c.toNat < 0x110000 := c.valid

section decodeFrom

variable {position seen value number low high : Nat} {places : List (Nat × Nat)} {lead byte : UInt8}
  {bytes rest : List UInt8}

theorem continueSequence_cons (hByte : byte.toNat = 0x80 + number) (hLow : low ≤ 0x80 + number)
    (hHigh : 0x80 + number ≤ high) (hNumber : number < 0x40) :
    continueSequence seen value ((low, high) :: places) (byte :: rest) =
      continueSequence (seen + 1) (value * 0x40 + number) places rest := by
  have hBits : (0x80 + number) % 0x40 = number := by omega
  rw [continueSequence, hByte, if_pos ⟨hLow, hHigh⟩, hBits]

theorem decodeFrom_single (hLead : lead.toNat < 0x80) :
    decodeFrom position (lead :: rest) =
      (decodeFrom (position + 1) rest).map (Char.ofNat lead.toNat :: ·) := by
  rw [decodeFrom, if_pos hLead]

theorem decodeFrom_sequence (hLead : 0xc2 ≤ lead.toNat) (hLast : lead.toNat ≤ 0xf4)
    (hPlaces : followers lead.toNat = places) (hLength : bytes.length = places.length)
    (hValue : continueSequence 1 (leadBits lead.toNat) places (bytes ++ rest) = .ok value) :
    decodeFrom position (lead :: (bytes ++ rest)) =
      (decodeFrom (position + 1 + bytes.length) rest).map (Char.ofNat value :: ·) := by
  have hStarts : startsSequence lead.toNat = true := by
    simp [startsSequence, hLead, hLast]
  have hOther : ¬ lead.toNat < 0x80 := by omega
  rw [decodeFrom, if_neg hOther, if_pos hStarts, hPlaces]
  simp only [hValue, ← hLength, List.drop_left]

end decodeFrom

section number

variable {number : Nat} (position : Nat) (rest : List UInt8)

theorem decodeFrom_two (hLow : 0x80 ≤ number) (hHigh : number < 0x800) :
    decodeFrom position
        (UInt8.ofNat (number / 64 % 32 + 192) :: ([UInt8.ofNat (number % 64 + 128)] ++ rest)) =
      (decodeFrom (position + 2) rest).map (Char.ofNat number :: ·) := by
  have hLead : (UInt8.ofNat (number / 64 % 32 + 192)).toNat = 0xc0 + number / 64 := by
    rw [toNat_ofByte] <;> omega
  have hLast : (UInt8.ofNat (number % 64 + 128)).toNat = 0x80 + number % 64 := by
    rw [toNat_ofByte] <;> omega
  have hBits : leadBits (0xc0 + number / 64) = number / 64 := by
    rw [leadBits, if_pos] <;> omega
  have hPlaces : followers (0xc0 + number / 64) = [(0x80, 0xbf)] := by
    rw [followers, if_pos]
    omega
  refine decodeFrom_sequence (by omega) (by omega) (hLead ▸ hPlaces) rfl ?_
  rw [hLead, hBits, List.singleton_append, continueSequence_cons hLast, continueSequence]
  · congr 1
    omega
  all_goals omega

/-- The second byte is bound by the least number of three bytes, and by the surrogates. -/
theorem decodeFrom_three (hLow : 0x800 ≤ number) (hHigh : number < 0x10000)
    (hNumber : number < 0xd800 ∨ 0xdfff < number) :
    decodeFrom position
        (UInt8.ofNat (number / 4096 % 16 + 224) ::
          ([UInt8.ofNat (number / 64 % 64 + 128), UInt8.ofNat (number % 64 + 128)] ++ rest)) =
      (decodeFrom (position + 3) rest).map (Char.ofNat number :: ·) := by
  have hLead : (UInt8.ofNat (number / 4096 % 16 + 224)).toNat = 0xe0 + number / 4096 := by
    rw [toNat_ofByte] <;> omega
  have hSecond : (UInt8.ofNat (number / 64 % 64 + 128)).toNat = 0x80 + number / 64 % 64 := by
    rw [toNat_ofByte] <;> omega
  have hLast : (UInt8.ofNat (number % 64 + 128)).toNat = 0x80 + number % 64 := by
    rw [toNat_ofByte] <;> omega
  have hBits : leadBits (0xe0 + number / 4096) = number / 4096 := by
    rw [leadBits, if_neg, if_pos] <;> omega
  have hPlaces : ∃ low high, followers (0xe0 + number / 4096) = [(low, high), (0x80, 0xbf)] ∧
      low ≤ 0x80 + number / 64 % 64 ∧ 0x80 + number / 64 % 64 ≤ high := by
    rw [followers, if_neg (by omega)]
    split
    · exact ⟨0xa0, 0xbf, rfl, by omega, by omega⟩
    · split
      · exact ⟨0x80, 0x9f, rfl, by omega, by omega⟩
      · rw [if_pos (by omega)]
        exact ⟨0x80, 0xbf, rfl, by omega, by omega⟩
  obtain ⟨low, high, hPlaces, hFrom, hTo⟩ := hPlaces
  refine decodeFrom_sequence (by omega) (by omega) (hLead ▸ hPlaces) rfl ?_
  rw [hLead, hBits, List.cons_append, List.singleton_append,
    continueSequence_cons hSecond hFrom hTo, continueSequence_cons hLast, continueSequence]
  · congr 1
    omega
  all_goals omega

/-- The second byte is bound by the least number of four bytes, and by the last character. -/
theorem decodeFrom_four (hLow : 0x10000 ≤ number) (hHigh : number < 0x110000) :
    decodeFrom position
        (UInt8.ofNat (number / 262144 % 8 + 240) ::
          ([UInt8.ofNat (number / 4096 % 64 + 128), UInt8.ofNat (number / 64 % 64 + 128),
            UInt8.ofNat (number % 64 + 128)] ++ rest)) =
      (decodeFrom (position + 4) rest).map (Char.ofNat number :: ·) := by
  have hLead : (UInt8.ofNat (number / 262144 % 8 + 240)).toNat = 0xf0 + number / 262144 := by
    rw [toNat_ofByte] <;> omega
  have hSecond : (UInt8.ofNat (number / 4096 % 64 + 128)).toNat = 0x80 + number / 4096 % 64 := by
    rw [toNat_ofByte] <;> omega
  have hThird : (UInt8.ofNat (number / 64 % 64 + 128)).toNat = 0x80 + number / 64 % 64 := by
    rw [toNat_ofByte] <;> omega
  have hLast : (UInt8.ofNat (number % 64 + 128)).toNat = 0x80 + number % 64 := by
    rw [toNat_ofByte] <;> omega
  have hBits : leadBits (0xf0 + number / 262144) = number / 262144 := by
    rw [leadBits, if_neg, if_neg] <;> omega
  have hPlaces : ∃ low high,
      followers (0xf0 + number / 262144) = [(low, high), (0x80, 0xbf), (0x80, 0xbf)] ∧
        low ≤ 0x80 + number / 4096 % 64 ∧ 0x80 + number / 4096 % 64 ≤ high := by
    rw [followers, if_neg (by omega), if_neg (by omega), if_neg (by omega), if_neg (by omega)]
    split
    · exact ⟨0x90, 0xbf, rfl, by omega, by omega⟩
    · split
      · exact ⟨0x80, 0x8f, rfl, by omega, by omega⟩
      · exact ⟨0x80, 0xbf, rfl, by omega, by omega⟩
  obtain ⟨low, high, hPlaces, hFrom, hTo⟩ := hPlaces
  refine decodeFrom_sequence (by omega) (by omega) (hLead ▸ hPlaces) rfl ?_
  rw [hLead, hBits, List.cons_append, List.cons_append, List.singleton_append,
    continueSequence_cons hSecond hFrom hTo, continueSequence_cons hThird,
    continueSequence_cons hLast, continueSequence]
  · congr 1
    omega
  all_goals omega

end number

theorem decodeFrom_utf8EncodeChar_append (c : Char) (position : Nat) (rest : List UInt8) :
    ∃ behind, decodeFrom position (String.utf8EncodeChar c ++ rest) =
      (decodeFrom behind rest).map (c :: ·) := by
  have hNumber := toNat_cases c
  have hToNat : c.val.toNat = c.toNat := rfl
  simp only [String.utf8EncodeChar, hToNat]
  split
  · have hLead : (UInt8.ofNat c.toNat).toNat = c.toNat := toNat_ofByte (by omega)
    refine ⟨position + 1, ?_⟩
    rw [List.singleton_append, decodeFrom_single (by omega), hLead, Char.ofNat_toNat]
  · split
    · have hTwo := @decodeFrom_two c.toNat position rest (by omega) (by omega)
      exact ⟨position + 2, by rwa [Char.ofNat_toNat] at hTwo⟩
    · split
      · have hThree := @decodeFrom_three c.toNat position rest (by omega) (by omega)
          (hNumber.imp_right And.left)
        exact ⟨position + 3, by rwa [Char.ofNat_toNat] at hThree⟩
      · have hFour := @decodeFrom_four c.toNat position rest (by omega) (by omega)
        exact ⟨position + 4, by rwa [Char.ofNat_toNat] at hFour⟩

theorem decodeUtf8_encodeUtf8 (text : Text) : decodeUtf8 (encodeUtf8 text) = .ok text := by
  have hFrom (position : Nat) : decodeFrom position (encodeUtf8 text) = .ok text := by
    induction text generalizing position with
    | nil => rw [encodeUtf8, List.flatMap_nil, decodeFrom]
    | cons c rest ih =>
      obtain ⟨behind, hHere⟩ := decodeFrom_utf8EncodeChar_append c position (encodeUtf8 rest)
      rw [ih] at hHere
      exact hHere
  exact hFrom 0

end QueryPatch.Text
