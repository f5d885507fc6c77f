import SearchQuery.Text

/-! # Lines and columns

A line ends at a newline or at a carriage return with a newline. A column counts characters, a
position within a line counts bytes.
-/

namespace SearchQuery

/-- A place in a text, for people: both numbers start at one. -/
structure Position where
  line : Nat
  column : Nat
deriving DecidableEq, Repr

namespace Text

/-- The lines of a text without their ends. A newline at the end of the text starts no line. -/
def lines : Text → List Text
  | [] => []
  | '\n' :: rest => [] :: lines rest
  | '\r' :: '\n' :: rest => [] :: lines rest
  | c :: rest =>
    match lines rest with
    | [] => [[c]]
    | line :: later => (c :: line) :: later

def lastLine (t : Text) : Text := (t.reverse.takeWhile (· ≠ '\n')).reverse

/-- The line and column of a byte offset. Every offset inside a character has the position of the
character, and every offset past the end that of the end. -/
def positionAt (t : Text) (offset : Nat) : Position :=
  let before := (splitAtByte offset t).1
  { line := before.count '\n' + 1, column := (lastLine before).length + 1 }

/-- The line with the given number, empty if there is none. -/
def lineAt (t : Text) (line : Nat) : Text := (lines t).getD (line - 1) []

/-- How many bytes an offset lies after the start of its line. -/
def offsetInLine (t : Text) (offset : Nat) : Nat :=
  let before := (splitAtByte offset t).1
  min offset (byteSize t) - (byteSize before - byteSize (lastLine before))

/-- A text in three parts around the character at an offset. At the end of the text the character
is a blank that the text does not hold. -/
structure Split where
  before : Text
  culprit : Text
  after : Text
deriving DecidableEq, Repr

def splitAround (t : Text) (offset : Nat) : Split :=
  match splitAtByte offset t with
  | (before, c :: after) => ⟨before, [c], after⟩
  | (before, []) => ⟨before, " ", []⟩

end Text

end SearchQuery
