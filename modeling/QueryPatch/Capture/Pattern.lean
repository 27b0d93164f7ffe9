import QueryPatch.Capture

/-! # The pattern of a captured statement

A pattern with ordered choice: of several ways to match, the first one counts that lets the rest of
the pattern match too. A statement is such a pattern, and a text is searched for it from left to
right. This is the meaning of captured statements; `Capture.statements` finds them without trying
more than one way.
-/
set_option autoImplicit false

namespace QueryPatch

/-- A position in a text: what was passed, last code point first, and what is left. -/
structure Position where
  passed : Text
  left : Text

namespace Position

def atStart (text : Text) : Position := ⟨[], text⟩

def isLineStart (position : Position) : Bool := position.passed.head?.all (· = '\n')

def isTextEnd (position : Position) : Bool := position.left.isEmpty

/-- Whether a word ends or begins here. -/
def isWordEdge (position : Position) : Bool :=
  position.passed.head?.any Text.isWordLike != position.left.head?.any Text.isWordLike

/-- The text between a position and a later one. -/
def upTo (position later : Position) : Text := Capture.before position.left later.left

end Position

inductive Pattern
  | one (accepts : Char → Bool)
  /-- Consumes nothing. -/
  | look (holds : Position → Bool)
  | sequence (first second : Pattern)
  | choice (first second : Pattern)
  | many (body : Pattern)

namespace Pattern

/-- As often as possible first. A round that consumes nothing is none. -/
def rounds {α : Type} (body : Position → (Position → Option α) → Option α) (position : Position)
    (next : Position → Option α) : Option α :=
  (body position fun reached =>
    if _h : reached.left.length < position.left.length then rounds body reached next else none) <|>
    next position
termination_by position.left.length

/-- The first way to match from a position on after which `next` accepts the position reached. -/
def run {α : Type} : Pattern → Position → (Position → Option α) → Option α
  | one accepts, position, next =>
    match position.left with
    | [] => none
    | c :: rest => if accepts c then next ⟨c :: position.passed, rest⟩ else none
  | look holds, position, next => if holds position then next position else none
  | sequence first second, position, next =>
    first.run position fun reached => second.run reached next
  | choice first second, position, next => first.run position next <|> second.run position next
  | many body, position, next => rounds body.run position next

/-- Where a match begins, where the part of it ends that is wanted, and where it ends. -/
structure Match where
  start : Position
  wanted : Position
  finish : Position

def find? (wanted closing : Pattern) (position : Position) : Option Match :=
  wanted.run position fun reached =>
    closing.run reached fun finish => some ⟨position, reached, finish⟩

/-- All matches from a position on, each the leftmost one after the end of the one before. -/
def findAll (wanted closing : Pattern) (position : Position) : List Match :=
  match find? wanted closing position with
  | some found =>
    if _h : found.finish.left.length < position.left.length then
      found :: findAll wanted closing found.finish
    else [found]
  | none =>
    match _h : position.left with
    | [] => []
    | c :: rest => findAll wanted closing ⟨c :: position.passed, rest⟩
termination_by position.left.length
decreasing_by
  · exact _h
  · simp [_h]

/-- A letter of each class, then the rest. -/
def word (rest : Pattern) : List (List Char) → Pattern
  | [] => rest
  | letters :: more => sequence (one letters.contains) (word rest more)

/-- The word `select` at the start of a line. -/
def opening : Pattern :=
  sequence (look Position.isLineStart) (word (look Position.isWordEdge) Capture.selectLetters)

def quote : Pattern := one (· = '\'')

/-- Inside a literal: a code point that is no quote, or two quotes. -/
def literalPart : Pattern := choice (one (· ≠ '\'')) (sequence quote quote)

def literal : Pattern := sequence quote (sequence (many literalPart) quote)

/-- Inside a statement: a literal, a code point that is no semicolon, or a quote that opens no
literal. -/
def bodyPart : Pattern := choice literal (choice (one fun c => c ≠ ';' && c ≠ '\'') quote)

def body : Pattern := many bodyPart

def statement : Pattern := sequence opening body

def closing : Pattern := choice (one (· = ';')) (look Position.isTextEnd)

def Match.statement (found : Match) : Statement :=
  ⟨found.start.passed.count '\n' + 1, Text.stripEnd (found.start.upTo found.wanted)⟩

def statements (text : Text) : List Statement :=
  ((findAll statement closing (.atStart text)).map (·.statement)).filter (!·.text.isEmpty)

end Pattern
end QueryPatch
