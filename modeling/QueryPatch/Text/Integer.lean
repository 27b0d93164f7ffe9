import QueryPatch.Text.Blank
import QueryPatch.Text.Digit

/-! # Integers in texts

An integer is written with one optional sign and decimal digits of any script, between which single
underscores may stand; blanks around it do not count.
-/
set_option autoImplicit false

namespace QueryPatch.Text

/-- The four ASCII separators (U+001C to U+001F) are blank in a text, but not around an integer. -/
def isMargin (c : Char) : Bool := isBlank c && !(0x1c ≤ c.toNat && c.toNat ≤ 0x1f)

def trimMargin (text : Text) : Text :=
  ((text.dropWhile isMargin).reverse.dropWhile isMargin).reverse

/-- The values of the digits after a first one. -/
def moreDigits? : Text → Option (List Nat)
  | [] => some []
  | '_' :: c :: rest => do return (← digit? c) :: (← moreDigits? rest)
  | c :: rest => do return (← digit? c) :: (← moreDigits? rest)

def digits? : Text → Option (List Nat)
  | [] => none
  | c :: rest => do return (← digit? c) :: (← moreDigits? rest)

inductive IntegerFault
  | malformed
  | tooLong (digits : Nat)
  deriving DecidableEq

/-- A number of more digits is refused. -/
def maxDigits : Nat := 4300

def ofDigits (digits : List Nat) : Nat := digits.foldl (fun value digit => 10 * value + digit) 0

def inNumber (c : Char) : Bool := (digit? c).isSome || c == '_'

/-- The digits a text starts with are counted before anything after them is looked at. -/
def magnitude? (text : Text) : Except IntegerFault Nat :=
  match digits? (text.takeWhile inNumber) with
  | none => .error .malformed
  | some digits =>
    if maxDigits < digits.length then .error (.tooLong digits.length)
    else if (text.dropWhile inNumber).isEmpty then .ok (ofDigits digits)
    else .error .malformed

def integer? (text : Text) : Except IntegerFault Int :=
  match trimMargin text with
  | '-' :: rest => (magnitude? rest).map fun n => -(n : Int)
  | '+' :: rest => (magnitude? rest).map Int.ofNat
  | body => (magnitude? body).map Int.ofNat

end QueryPatch.Text
