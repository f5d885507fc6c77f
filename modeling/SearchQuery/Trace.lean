import SearchQuery.Format

/-! # Traces

What happens on the way from a text to its canonical layout, step by step. With `--debug` the program logs
all but single steps. The log is kept apart from `Command.respond`: nothing else depends on it.
-/

namespace SearchQuery

inductive Event where
  | mismatch (offset : Nat) (expected : Nat)
  | visit (node : NodeRef)
  | items (count : Nat)
  | singleCondition
  | rendering (width : Nat) (style : Style)
  /-- The printer looked whether a group fits. -/
  | decision (decision : Decision)
deriving DecidableEq, Repr

namespace Event

/-- Single steps are more detailed than the others. -/
def isDetail : Event → Bool
  | visit _ | decision _ => true
  | _ => false

/-- What an event says, as named values. -/
def fields : Event → List (Text × Text)
  | mismatch offset expected =>
    [("message", "Grammar mismatch"), ("offset", Text.ofNat offset),
      ("expected", Text.ofNat expected)]
  | visit node => [("rule", node.rule.name), ("offset", Text.ofNat node.offset)]
  | items count =>
    [("message", "Found " ++ Text.ofNat count ++ (if count = 1 then " item" else " items"))]
  | singleCondition => [("message", "Found single condition")]
  | rendering width style =>
    [("message", "Rendering"), ("width", Text.ofNat width), ("style", style.name)]
  | decision d =>
    [("column", Text.ofNat d.column), ("needed", Text.ofNat d.needed),
      ("fits", if d.fits then "true" else "false")]

/-- What is said of a query that was found. -/
def ofQuery : Query → Event
  | .sequence list => items list.length
  | _ => singleCondition

end Event

def Printed.decisions (printed : Printed) : List Decision :=
  printed.strokes.filterMap fun
    | .decide decision => some decision
    | _ => none

/-- The events of `format`, and whether it gives a text. -/
def formatEvents (width : Nat) (style : Style) (t : Text) : Bool × List Event :=
  match parseTree t with
  | .error m => (false, [.mismatch m.offset m.expected.length])
  | .ok tree =>
    let walk := tree.walk
    let visits := walk.visits.map Event.visit
    match walk.result with
    | .error _ => (false, visits)
    | .ok query =>
      let printed := (query.layout style).printPage Text.width width
      (true, visits ++ [Event.ofQuery query, .rendering width style] ++
        printed.decisions.map Event.decision)

end SearchQuery
