import SearchQuery.Text.Position

/-! # Mismatches

A text that does not follow the grammar is reported at the furthest offset where a token was tried
and did not match, with all that would have matched there.
-/

namespace SearchQuery

/-- Something that the grammar would have accepted. -/
inductive Expected where
  /-- An exact token, such as `)`. -/
  | literal (token : Text)
  /-- A kind of input, such as a term. -/
  | described (description : Text)
deriving DecidableEq, Repr

namespace Expected

/-- A token stands between quotes, a description as it is. -/
def display : Expected → Text
  | literal token => "\"" ++ token ++ "\""
  | described description => description

/-- All but the last with a comma after them, and the last one. -/
def enumerate : List Text → Text
  | [] => []
  | [last] => "or " ++ last
  | item :: rest => item ++ ", " ++ enumerate rest

def join (expected : List Expected) : Text :=
  match expected.map display with
  | [] => "nothing"
  | [item] => item
  | [one, other] => one ++ " or " ++ other
  | items => enumerate items

end Expected

/-! ## The furthest failure -/

/-- A token that was tried at an offset and did not match. -/
structure Attempt where
  offset : Nat
  expected : Expected
deriving DecidableEq, Repr

/-- The furthest offset of the attempts so far, and what was tried there, each thing once and in
the order of the first attempts. -/
structure Furthest where
  offset : Nat
  expected : List Expected
deriving DecidableEq, Repr

namespace Furthest

def start : Furthest := ⟨0, []⟩

def note (seen : Furthest) (attempt : Attempt) : Furthest :=
  let seen := if seen.offset < attempt.offset then ⟨attempt.offset, []⟩ else seen
  if attempt.offset = seen.offset ∧ attempt.expected ∉ seen.expected then
    { seen with expected := seen.expected ++ [attempt.expected] }
  else
    seen

def ofAttempts (attempts : List Attempt) : Furthest := attempts.foldl note start

end Furthest

/-! ## The report -/

structure Mismatch where
  source : Text
  offset : Nat
  expected : List Expected
deriving DecidableEq, Repr

namespace Mismatch

def position (m : Mismatch) : Position := m.source.positionAt m.offset

def expectedText (m : Mismatch) : Text := Expected.join m.expected

/-- The position as messages start with it. -/
def heading (m : Mismatch) : Text :=
  "Line " ++ Text.ofNat m.position.line ++ ", col " ++ Text.ofNat m.position.column ++ ":"

def shortMessage (m : Mismatch) : Text := m.heading ++ " expected " ++ m.expectedText

/-- What stands before the code of a line in the long message. -/
def gutter (m : Mismatch) : Text := Text.ofNat m.position.line ++ " | "

/-- The message with the line of code and a caret under the position. -/
def message (m : Mismatch) : Text :=
  m.heading ++ "\n> " ++ m.gutter ++ m.source.lineAt m.position.line ++
    "\n  " ++ Text.padLeft (m.gutter.length + m.position.column) "^" ++
    "\nExpected " ++ m.expectedText

end Mismatch

end SearchQuery
