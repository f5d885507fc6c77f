import SearchQuery.Mismatch
import SearchQuery.Tree

/-! # Readers

A reader takes the text at a cursor and gives a value and the cursor after it, or fails. Along the
way it collects every token that was tried without a match. A failed alternative leaves no trace but
its attempts: the next one starts from the same cursor.
-/

namespace SearchQuery

/-- A place in a query: the byte offset, and the text from there on. -/
structure Cursor where
  offset : Nat
  rest : Text
deriving DecidableEq, Repr

namespace Cursor

def start (t : Text) : Cursor := ⟨0, t⟩

/-- The cursor after a text that stands at this one. -/
def past (c : Cursor) (taken : Text) : Cursor :=
  ⟨c.offset + taken.byteSize, c.rest.drop taken.length⟩

/-- The text between two byte offsets of the query, neither before the cursor. -/
def slice (c : Cursor) (start stop : Nat) : Text := c.rest.slice (start - c.offset) (stop - c.offset)

end Cursor

/-- What became of reading: the attempts that failed on the way, and the value with the cursor
after it unless reading failed. -/
structure Outcome (α : Type) where
  attempts : List Attempt
  result : Option (α × Cursor)

def Reader (α : Type) : Type := Cursor → Outcome α

namespace Reader

variable {α β : Type}

instance : Monad Reader where
  pure a := fun c => ⟨[], some (a, c)⟩
  bind read next := fun c =>
    match read c with
    | ⟨tried, none⟩ => ⟨tried, none⟩
    | ⟨tried, some (a, c')⟩ =>
      let later := next a c'
      ⟨tried ++ later.attempts, later.result⟩

def fail : Reader α := fun _ => ⟨[], none⟩

/-- Fails because something else was expected here. -/
def miss (expected : Expected) : Reader α := fun c => ⟨[⟨c.offset, expected⟩], none⟩

def here : Reader Cursor := fun c => ⟨[], some (c, c)⟩

/-- The first of the readers that does not fail, each tried from the same cursor. -/
def firstOf : List (Reader α) → Reader α
  | [] => fail
  | read :: others => fun c =>
    match read c with
    | ⟨tried, some found⟩ => ⟨tried, some found⟩
    | ⟨tried, none⟩ =>
      let later := firstOf others c
      ⟨tried ++ later.attempts, later.result⟩

/-- Reads again and again until the reader fails or takes nothing. -/
def many (read : Reader α) (c : Cursor) : Outcome (List α) :=
  match read c with
  | ⟨tried, none⟩ => ⟨tried, some ([], c)⟩
  | ⟨tried, some (a, c')⟩ =>
    if c'.rest.length < c.rest.length then
      let later := many read c'
      ⟨tried ++ later.attempts, later.result.map fun (as, stop) => (a :: as, stop)⟩
    else
      ⟨tried, some ([a], c')⟩
termination_by c.rest.length

/-- Makes a node of what is read, over the text that was read for it. -/
def node (rule : Rule) (children : Reader (List Tree)) : Reader Tree := fun c =>
  let inner := children c
  ⟨inner.attempts, inner.result.map fun (trees, stop) =>
    (⟨rule, c.offset, c.slice c.offset stop.offset, trees⟩, stop)⟩

/-- Makes a node without children of a text that stands at the cursor. -/
def leaf (rule : Rule) (taken : Text) : Reader Tree := fun c =>
  ⟨[], some (⟨rule, c.offset, taken, []⟩, c.past taken)⟩

end Reader

end SearchQuery
