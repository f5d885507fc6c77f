import SearchQuery.Text

/-! # Queries

The syntax tree of a query string, and the tokens that its parts are written with. Every token has
one spelling, and `ofText?` reads back just the spellings that a query can hold.
-/

namespace SearchQuery

/-! ## Tokens -/

/-- What stands between two conditions. Two conditions with only blanks between them are joined by
`either`, which has no spelling. -/
inductive Operator where
  | and
  | or
  | not
  | either
deriving DecidableEq, Repr

namespace Operator

def text : Operator → Text
  | and => "AND"
  | or => "OR"
  | not => "NOT"
  | either => ""

def ofText? (t : Text) : Option Operator := [and, or, not].find? (·.text = t)

def name : Operator → Text
  | and => "And"
  | or => "Or"
  | not => "Not"
  | either => "ImplicitOr"

end Operator

/-- What a condition is marked with: the word `NOT`, which needs a blank after it, or a sign that
touches the condition. -/
inductive Mark where
  | not
  | plus
  | minus
deriving DecidableEq, Repr

namespace Mark

def text : Mark → Text
  | not => "NOT"
  | plus => "+"
  | minus => "-"

def name : Mark → Text
  | not => "Not"
  | plus => "Plus"
  | minus => "Minus"

end Mark

/-- Whether a range contains its end. -/
inductive Edge where
  | inclusive
  | exclusive
deriving DecidableEq, Repr

namespace Edge

def opening : Edge → Text
  | inclusive => "["
  | exclusive => "\x7b"

def closing : Edge → Text
  | inclusive => "]"
  | exclusive => "\x7d"

def ofOpening? (t : Text) : Option Edge := [inclusive, exclusive].find? (·.opening = t)

def ofClosing? (t : Text) : Option Edge := [inclusive, exclusive].find? (·.closing = t)

def name : Edge → Text
  | inclusive => "Inclusive"
  | exclusive => "Exclusive"

end Edge

/-- The comparison that a range with one end starts with, as in `>=10`. -/
inductive Comparison where
  | greater
  | greaterEqual
  | less
  | lessEqual
deriving DecidableEq, Repr

namespace Comparison

def text : Comparison → Text
  | greater => ">"
  | greaterEqual => ">="
  | less => "<"
  | lessEqual => "<="

def ofText? (t : Text) : Option Comparison :=
  [greater, greaterEqual, less, lessEqual].find? (·.text = t)

def name : Comparison → Text
  | greater => "Greater"
  | greaterEqual => "GreaterEqual"
  | less => "Less"
  | lessEqual => "LessEqual"

end Comparison

/-! ## The tree -/

/-- A query. Captured texts stand as they are written, with their quotes and backslashes. -/
inductive Query where
  | operator (op : Operator)
  | parenthesized (inner : Query)
  | marked (mark : Mark) (value : Query)
  | field (name : Text) (value : Query)
  | range (opening : Edge) (lower upper : Text) (closing : Edge)
  | comparison (operand : Comparison) (value : Query)
  | regex (expression : Text)
  | term (raw : Text)
  | sequence (items : List Query)
deriving Repr

namespace Query

mutual

def same : Query → Query → Bool
  | operator op, operator op' => op = op'
  | parenthesized inner, parenthesized inner' => same inner inner'
  | marked mark value, marked mark' value' => mark = mark' && same value value'
  | field name value, field name' value' => name = name' && same value value'
  | range opening lower upper closing, range opening' lower' upper' closing' =>
    (opening, lower, upper, closing) = (opening', lower', upper', closing')
  | comparison operand value, comparison operand' value' => operand = operand' && same value value'
  | regex expression, regex expression' => expression = expression'
  | term raw, term raw' => raw = raw'
  | sequence items, sequence items' => sameAll items items'
  | _, _ => false

def sameAll : List Query → List Query → Bool
  | [], [] => true
  | item :: later, item' :: later' => same item item' && sameAll later later'
  | _, _ => false

end

mutual

theorem same_iff (q q' : Query) : same q q' ↔ q = q' := by
  cases q <;> cases q' <;> simp [same, same_iff, sameAll_iff]

theorem sameAll_iff (qs qs' : List Query) : sameAll qs qs' ↔ qs = qs' := by
  cases qs <;> cases qs' <;> simp [sameAll, same_iff, sameAll_iff]

end

instance : DecidableEq Query := fun q q' => decidable_of_iff (same q q') (same_iff q q')

end Query

end SearchQuery
