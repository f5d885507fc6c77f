import SearchQuery.Text

/-! # Parse trees

What the grammar makes of a text: every node knows the rule that matched, where the match starts
and the text it covers.
-/

namespace SearchQuery

inductive Rule where
  | query
  | list
  | iteration
  | spaces
  | spaced
  | orSpace
  | boolOperator
  | parented
  | longNegation
  | simpleNegation
  | simpleMust
  | fieldCondition
  | rangeCondition
  | simpleRangeCondition
  | regexCondition
  | detachedCondition
  | terminal
deriving DecidableEq, Repr

namespace Rule

def all : List Rule :=
  [query, list, iteration, spaces, spaced, orSpace, boolOperator, parented, longNegation,
    simpleNegation, simpleMust, fieldCondition, rangeCondition, simpleRangeCondition,
    regexCondition, detachedCondition, terminal]

/-- The name under which messages show a rule. -/
def name : Rule → Text
  | query => "Query"
  | list => "List"
  | iteration => "Iteration"
  | spaces => "Spaces"
  | spaced => "Spaced"
  | orSpace => "OrSpace"
  | boolOperator => "BoolOperator"
  | parented => "Parented"
  | longNegation => "LongNegation"
  | simpleNegation => "SimpleNegation"
  | simpleMust => "SimpleMust"
  | fieldCondition => "FieldCondition"
  | rangeCondition => "RangeCondition"
  | simpleRangeCondition => "SimpleRangeCondition"
  | regexCondition => "RegexCondition"
  | detachedCondition => "DetachedCondition"
  | terminal => "Terminal"

def ofName? (t : Text) : Option Rule := all.find? (·.name = t)

end Rule

/-- A node of the parse tree. The offset counts bytes from the start of the query. -/
structure Tree where
  rule : Rule
  offset : Nat
  source : Text
  children : List Tree
deriving Repr

namespace Tree

def stop (t : Tree) : Nat := t.offset + t.source.byteSize

mutual

def decEq : (t t' : Tree) → Decidable (t = t')
  | ⟨rule, offset, source, children⟩, ⟨rule', offset', source', children'⟩ =>
    have := decEqAll children children'
    decidable_of_iff (rule = rule' ∧ offset = offset' ∧ source = source' ∧ children = children')
      (by simp)

def decEqAll : (ts ts' : List Tree) → Decidable (ts = ts')
  | [], [] => isTrue rfl
  | [], _ :: _ => isFalse (by simp)
  | _ :: _, [] => isFalse (by simp)
  | t :: ts, t' :: ts' =>
    have := decEq t t'
    have := decEqAll ts ts'
    decidable_of_iff (t = t' ∧ ts = ts') (by simp)

end

instance : DecidableEq Tree := decEq

end Tree

end SearchQuery
