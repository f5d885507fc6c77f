import SearchQuery.Highlight.Fragment
import SearchQuery.Highlight.Recognizer

/-! # Patterns

A pattern finds the tokens of one class in a piece of neutral text and splits the piece around them.
Where a match comes from does not matter for splitting, as long as it lies in the piece and not before
the place where the search began.
-/

namespace SearchQuery

/-- A match in a piece, found from a position on. Positions count characters. -/
structure Match (piece : Text) (search : Nat) where
  start : Nat
  stop : Nat
  search_le : search ≤ start
  start_le : start ≤ stop
  stop_le : stop ≤ piece.length

abbrev Matcher := (piece : Text) → (search : Nat) → Option (Match piece search)

def charBefore (piece : Text) (position : Nat) : Option Char :=
  if position = 0 then none else piece[position - 1]?

def Recognizer.matcher (r : Recognizer) : Matcher := fun piece search =>
  if hs : search ≤ piece.length then
    match h : r.search (charBefore piece search) (piece.drop search) with
    | none => none
    | some (skipped, n) =>
      some {
        start := search + skipped
        stop := search + skipped + n
        search_le := by omega
        start_le := by omega
        stop_le := by
          have := search_le h
          rw [List.length_drop] at this
          omega }
  else
    none

/-- The tokens of one class. A match does not count directly after certain characters. -/
structure Pattern where
  kind : TokenClass
  matcher : Matcher
  notAfter : List Char := []

namespace Pattern

/-- A match that does not count: it is empty, or stands after a character that rules it out. -/
def rejects (p : Pattern) {piece : Text} {search : Nat} (m : Match piece search) : Bool :=
  m.start = m.stop || Recognizer.isAt p.notAfter.contains (charBefore piece m.start)

/-- Splits what is left of a piece. Everything before `last` is settled, and the next match is looked
for from `search` on. After a match that does not count the search goes on one character further. -/
def splitFrom (p : Pattern) (piece : Text) (last search : Nat) : List Fragment :=
  match p.matcher piece search with
  | none => [⟨.neutral, piece.drop last⟩]
  | some m =>
    if hr : p.rejects m then
      if hlt : m.start < piece.length then
        have := m.search_le
        splitFrom p piece last (m.start + 1)
      else
        [⟨.neutral, piece.drop last⟩]
    else
      have : m.start ≠ m.stop := fun h => hr (by simp [rejects, h])
      have := m.search_le
      have := m.start_le
      have := m.stop_le
      ⟨.neutral, (piece.drop last).take (m.start - last)⟩ ::
        ⟨p.kind, (piece.drop m.start).take (m.stop - m.start)⟩ ::
        splitFrom p piece m.stop m.stop
termination_by piece.length - search

def split (p : Pattern) (piece : Text) : List Fragment := p.splitFrom piece 0 0

/-- Splits the neutral fragments and leaves the others as they are. -/
def refine (p : Pattern) (fragments : List Fragment) : List Fragment :=
  fragments.flatMap fun f => if f.kind = .neutral then p.split f.text else [f]

end Pattern

end SearchQuery
