import SearchQuery.Doc.Print
import SearchQuery.Parse
import SearchQuery.Query.Layout
import SearchQuery.Text.Width

/-! # Formatting -/

namespace SearchQuery

/-- The text of a document on a page of the given width, measured in columns of a terminal. -/
def Doc.render (width : Nat) (doc : Doc) : Text := (doc.printPage Text.width width).text

def Query.format (width : Nat) (style : Style) (query : Query) : Text :=
  (query.layout style).render width

/-- Parses a text and lays the query out within a width. -/
def format (width : Nat) (style : Style) (t : Text) : Except QueryError Text :=
  (parse t).map (·.format width style)

/-- Whether a text is its own layout. A text that is no query is not. -/
def isFormatted (width : Nat) (style : Style) (t : Text) : Bool :=
  match format width style t with
  | .ok again => again = t
  | .error _ => false

end SearchQuery
