import SearchQuery.Query
import SearchQuery.Text.Quoted

/-! # Outlines of queries

A query can be shown with all its structure, on one line or with one part on each line.
-/

namespace SearchQuery

inductive Outline where
  | atom (text : Text)
  | wrapped (name : Text) (content : Outline)
  | record (name : Text) (fields : List (Text × Outline))
  | items (list : List Outline)

namespace Outline

/-! ## On one line -/

mutual

def line : Outline → Text
  | atom t => t
  | wrapped name content => name ++ "(" ++ line content ++ ")"
  | record name fields => name ++ " \x7b " ++ lineFields fields ++ " \x7d"
  | items list => "[" ++ lineItems list ++ "]"

def lineFields : List (Text × Outline) → Text
  | [] => []
  | [(name, content)] => name ++ ": " ++ line content
  | (name, content) :: later => name ++ ": " ++ line content ++ ", " ++ lineFields later

def lineItems : List Outline → Text
  | [] => []
  | [item] => line item
  | item :: later => line item ++ ", " ++ lineItems later

end

/-! ## Indented -/

/-- A new line with an indentation of four blanks for each level. -/
def newline (level : Nat) : Text := '\n' :: List.replicate (4 * level) ' '

mutual

/-- The outline over several lines. Every part but the last line's bracket ends with a comma. -/
def indented (level : Nat) : Outline → Text
  | atom t => t
  | wrapped name content =>
    name ++ "(" ++ newline (level + 1) ++ indented (level + 1) content ++ "," ++ newline level ++ ")"
  | record name fields =>
    name ++ " \x7b" ++ indentedFields (level + 1) fields ++ newline level ++ "\x7d"
  | items [] => "[]"
  | items (first :: later) =>
    "[" ++ indentedItems (level + 1) (first :: later) ++ newline level ++ "]"

def indentedFields (level : Nat) : List (Text × Outline) → Text
  | [] => []
  | (name, content) :: later =>
    newline level ++ name ++ ": " ++ indented level content ++ "," ++ indentedFields level later

def indentedItems (level : Nat) : List Outline → Text
  | [] => []
  | item :: later => newline level ++ indented level item ++ "," ++ indentedItems level later

end

end Outline

namespace Query

mutual

def outline : Query → Outline
  | operator op => .wrapped "BoolOperator" (.atom op.name)
  | parenthesized inner => .wrapped "Parented" inner.outline
  | marked mark value => .record "Marking" [("op", .atom mark.name), ("value", value.outline)]
  | field name value =>
    .record "FieldCondition" [("name", .atom name.quoted), ("value", value.outline)]
  | range opening lower upper closing =>
    .record "RangeCondition" [("opening", .atom opening.name), ("from", .atom lower.quoted),
      ("to", .atom upper.quoted), ("closing", .atom closing.name)]
  | comparison operand value =>
    .record "SimpleRangeCondition" [("operand", .atom operand.name), ("value", value.outline)]
  | regex expression => .wrapped "RegexCondition" (.atom expression.quoted)
  | term raw => .wrapped "Terminal" (.atom raw.quoted)
  | sequence items => .wrapped "Sequence" (.items (outlines items))

def outlines : List Query → List Outline
  | [] => []
  | item :: later => item.outline :: outlines later

end

end Query

end SearchQuery
