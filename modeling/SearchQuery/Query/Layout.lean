import SearchQuery.Doc
import SearchQuery.Query

/-! # Layout of queries

The document of a query. All items of a sequence break together; parentheses, ranges and marks are
groups of their own.
-/

namespace SearchQuery

/-- How the lines of a broken group are indented. -/
inductive Style where
  /-- One column past the opening delimiter. -/
  | compact
  /-- Two columns further than the line before. -/
  | indented
deriving DecidableEq, Repr

namespace Style

def name : Style → Text
  | compact => "lisp"
  | indented => "simple"

def longName : Style → Text
  | compact => "compact"
  | indented => "indented"

def ofName? (t : Text) : Option Style :=
  [compact, indented].find? fun style => style.name = t || style.longName = t

/-- The message for a name that no style has. -/
def unknownMessage (t : Text) : Text := "Unknown formatting style '" ++ t ++ "'"

/-- A group whose lines are indented in this style. -/
def wrap (style : Style) (doc : Doc) : Doc :=
  match style with
  | compact => .group (.hang 1 doc)
  | indented => .group (.nest 2 doc)

end Style

def defaultWidth : Nat := 100

/-- The parts of a sequence. Empty parts are left out, and there is a break between two parts unless
the second brings its own. -/
def Doc.separate (docs : List Doc) : List Doc :=
  match docs.filter (!·.isEmpty) with
  | [] => []
  | first :: later =>
    first :: later.flatMap fun doc => if doc.startsWithBreak then [doc] else [.softBreak, doc]

namespace Query

variable (style : Style)

mutual

def layout : Query → Doc
  | operator .either => .concat []
  | operator op => .concat [.softBreak, .text op.text]
  | parenthesized inner =>
    style.wrap (.enclose "(" ")" (.concat [.emptyBreak, inner.layout, .emptyBreak]))
  | marked .not value =>
    style.wrap (.concat [.text Mark.not.text, .softBreak, value.layout])
  | marked mark value => style.wrap (.concat [.text mark.text, value.layout])
  | field name value => .concat [.text name, .text ":", value.layout]
  | range opening lower upper closing =>
    style.wrap (.concat [.text opening.opening, .emptyBreak, .text lower, .text " TO ",
      .text upper, .emptyBreak, .text closing.closing])
  | comparison operand value => .concat [.text operand.text, value.layout]
  | regex expression => .enclose "/" "/" (.text expression)
  | term raw => .text raw
  | sequence items => .group (.concat (Doc.separate (layouts items)))

def layouts : List Query → List Doc
  | [] => []
  | item :: later => item.layout :: layouts later

end

end Query

end SearchQuery
