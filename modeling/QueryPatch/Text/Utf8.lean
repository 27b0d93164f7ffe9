import QueryPatch.Text.Basic

/-! # UTF-8

Texts as bytes. Reading names the bytes that are wrong: a byte that starts no sequence, a sequence
cut short by a byte that cannot continue it, or by the end of the data.
-/
set_option autoImplicit false

namespace QueryPatch.Text

inductive Utf8Reason
  | start
  | continuation
  | truncated
  deriving DecidableEq

/-- `count` bytes from `position` on are wrong; the first of them is `byte`. -/
structure Utf8Fault where
  byte : UInt8
  position : Nat
  count : Nat
  reason : Utf8Reason
  deriving DecidableEq

/-- The bytes that may follow a leading byte, place by place. The ranges of the second byte leave
out overlong forms, surrogates and everything above U+10FFFF. -/
def followers (lead : Nat) : List (Nat × Nat) :=
  if lead < 0xe0 then [(0x80, 0xbf)]
  else if lead = 0xe0 then [(0xa0, 0xbf), (0x80, 0xbf)]
  else if lead = 0xed then [(0x80, 0x9f), (0x80, 0xbf)]
  else if lead < 0xf0 then [(0x80, 0xbf), (0x80, 0xbf)]
  else if lead = 0xf0 then [(0x90, 0xbf), (0x80, 0xbf), (0x80, 0xbf)]
  else if lead = 0xf4 then [(0x80, 0x8f), (0x80, 0xbf), (0x80, 0xbf)]
  else [(0x80, 0xbf), (0x80, 0xbf), (0x80, 0xbf)]

def startsSequence (lead : Nat) : Bool := 0xc2 ≤ lead && lead ≤ 0xf4

/-- The payload bits of a leading byte. -/
def leadBits (lead : Nat) : Nat :=
  if lead < 0xe0 then lead % 0x20 else if lead < 0xf0 then lead % 0x10 else lead % 0x08

/-- Reads the bytes that continue a sequence: `seen` of it are read and have the value `value`. -/
def continueSequence (seen value : Nat) : List (Nat × Nat) → List UInt8 →
    Except (Nat × Utf8Reason) Nat
  | [], _ => .ok value
  | _ :: _, [] => .error (seen, .truncated)
  | (low, high) :: places, byte :: rest =>
    if low ≤ byte.toNat ∧ byte.toNat ≤ high then
      continueSequence (seen + 1) (value * 0x40 + byte.toNat % 0x40) places rest
    else .error (seen, .continuation)

def decodeFrom (position : Nat) : List UInt8 → Except Utf8Fault Text
  | [] => .ok []
  | byte :: rest =>
    if byte.toNat < 0x80 then
      (decodeFrom (position + 1) rest).map (Char.ofNat byte.toNat :: ·)
    else if startsSequence byte.toNat then
      let places := followers byte.toNat
      match continueSequence 1 (leadBits byte.toNat) places rest with
      | .error (count, reason) => .error ⟨byte, position, count, reason⟩
      | .ok value =>
        (decodeFrom (position + 1 + places.length) (rest.drop places.length)).map
          (Char.ofNat value :: ·)
    else .error ⟨byte, position, 1, .start⟩
termination_by bytes => bytes.length
decreasing_by
  · simp
  · simp only [List.length_drop, List.length_cons]
    omega

def decodeUtf8 (bytes : List UInt8) : Except Utf8Fault Text := decodeFrom 0 bytes

def encodeUtf8 (text : Text) : List UInt8 := text.flatMap String.utf8EncodeChar

end QueryPatch.Text
