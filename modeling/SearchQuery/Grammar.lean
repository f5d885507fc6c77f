import SearchQuery.Grammar.Token

/-! # The grammar of query strings

A query is a list of conditions with operators or blanks between them. The choices are ordered: the
first alternative that matches wins. Conditions nest, in parentheses and after marks; a nested
condition always starts further on than the one that holds it.
-/

namespace SearchQuery

namespace Grammar

open Reader Token

/-! ## Operators between conditions -/

def boolOperator : Reader Tree := node .boolOperator do
  let _ ← firstOf [keyword "AND", keyword "OR", keyword "NOT"]
  return []

/-- An operator with the blanks around it. -/
def spacedOperator : Reader Tree := node .spaced do
  let before ← spaces
  let operator ← boolOperator
  let after ← spaces
  return [before, operator, after]

/-- Blanks that stand for an operator. -/
def orSpace : Reader Tree := node .orSpace do
  let _ ← whitespace
  return []

/-! ## Values of fields -/

def rangeJoiner : Reader Tree := node .terminal do
  let _ ← whitespace
  let _ ← literal "TO"
  let _ ← whitespace
  return []

/-- A range with two ends, as in `[1 TO 5}`. -/
def rangeCondition : Reader Tree := node .rangeCondition do
  let opening ← oneOf ["[", "\x7b"]
  let before ← spaces
  let lower ← word
  let joiner ← rangeJoiner
  let upper ← word
  let after ← spaces
  let closing ← oneOf ["]", "\x7d"]
  return [opening, before, lower, joiner, upper, after, closing]

/-- A range with one end, as in `>=18`. -/
def simpleRangeCondition : Reader Tree := node .simpleRangeCondition do
  let operand ← oneOf [">=", "<=", ">", "<"]
  let value ← word
  return [operand, value]

def regexCondition : Reader Tree := node .regexCondition do
  let opening ← literal "/"
  let expression ← body '/'
  let closing ← literal "/"
  return [opening, expression, closing]

/-! ## Conditions

Each of these is given the reader for the conditions inside it. -/

variable (condition : Reader Tree)

/-- An operator or blanks, and the condition after it. Blanks count only if no operator with a
condition follows, so that a last `AND` is a term. -/
def continuation : Reader (Tree × Tree) :=
  firstOf [
    do let separator ← spacedOperator
       let next ← condition
       return (separator, next),
    do let separator ← orSpace
       let next ← condition
       return (separator, next)]

/-- The nodes of a repetition. It reaches from the first of them to the last, and an empty one stands
at the cursor. -/
def iteration (c : Cursor) (children : List Tree) : Tree :=
  let start := (children.head?.map Tree.offset).getD c.offset
  let stop := (children.getLast?.map Tree.stop).getD c.offset
  ⟨.iteration, start, c.slice start stop, children⟩

/-- One condition or more. The separators and the conditions after the first are kept apart, in two
iterations. -/
def list : Reader Tree := node .list do
  let first ← condition
  let c ← here
  let later ← many (continuation condition)
  return [first, iteration c (later.map Prod.fst), iteration c (later.map Prod.snd)]

def parented : Reader Tree := node .parented do
  let opening ← literal "("
  let before ← spaces
  let inner ← list condition
  let after ← spaces
  let closing ← literal ")"
  return [opening, before, inner, after, closing]

def longNegation : Reader Tree := node .longNegation do
  let mark ← keyword "NOT"
  let blank ← whitespace
  let value ← condition
  return [mark, blank, value]

def simpleNegation : Reader Tree := node .simpleNegation do
  let mark ← literal "-"
  let value ← condition
  return [mark, value]

def simpleMust : Reader Tree := node .simpleMust do
  let mark ← literal "+"
  let value ← condition
  return [mark, value]

def value : Reader Tree :=
  firstOf [rangeCondition, simpleRangeCondition, regexCondition, parented condition, word]

def fieldCondition : Reader Tree := node .fieldCondition do
  let name ← term
  let colon ← literal ":"
  let value ← value condition
  return [name, colon, value]

def detachedCondition : Reader Tree := node .detachedCondition do
  let raw ← word
  return [raw]

/-- A condition, given the reader for the conditions inside it. -/
def conditionWith : Reader Tree :=
  firstOf [parented condition, longNegation condition, simpleNegation condition,
    simpleMust condition, fieldCondition condition, detachedCondition]

end Grammar

/-! ## Whole queries -/

namespace Grammar

open Reader Token

/-- A condition. The conditions inside it are read from later cursors only. -/
def condition (c : Cursor) : Outcome Tree :=
  conditionWith (fun c' => if c'.rest.length < c.rest.length then condition c' else fail c') c
termination_by c.rest.length

def query : Reader Tree := node .query do
  let leading ← spaces
  let conditions ← list condition
  let trailing ← spaces
  endOfInput
  return [leading, conditions, trailing]

end Grammar

/-- The parse tree of a text, or the furthest point that the grammar reached in it. -/
def parseTree (t : Text) : Except Mismatch Tree :=
  match Grammar.query (Cursor.start t) with
  | ⟨_, some (tree, _)⟩ => .ok tree
  | ⟨attempts, none⟩ =>
    let furthest := Furthest.ofAttempts attempts
    .error ⟨t, furthest.offset, furthest.expected⟩

end SearchQuery
