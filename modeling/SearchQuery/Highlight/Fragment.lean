import SearchQuery.Text

/-! # Classified fragments -/

namespace SearchQuery

/-- What a piece of a query is to a reader. Neutral text is shown plain. -/
inductive TokenClass where
  | neutral
  | string
  | variableName
  | boolean
  | number
  | operator
  | punctuation
  | keyword
deriving DecidableEq, Repr

namespace TokenClass

/-- The name that style sheets know the class by. -/
def name : TokenClass → Text
  | neutral => "neutral"
  | string => "string"
  | variableName => "variable"
  | boolean => "boolean"
  | number => "number"
  | operator => "operator"
  | punctuation => "punctuation"
  | keyword => "keyword"

end TokenClass

structure Fragment where
  kind : TokenClass
  text : Text
deriving DecidableEq, Repr

end SearchQuery
