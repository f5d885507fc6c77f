import SearchQuery.Format
import SearchQuery.Highlight
import SearchQuery.Markup.Html
import SearchQuery.Markup.Terminal

/-! # Highlighted queries -/

namespace SearchQuery

/-- A way to show a fragment of each class. -/
abbrev Markup := TokenClass → Text → Text

def Markup.plain : Markup := fun _ t => t

def highlight (h : Highlighter) (markup : Markup) (t : Text) : Text :=
  (h.classify t).flatMap fun f => markup f.kind f.text

def prettify (width : Nat) (style : Style) (h : Highlighter) (markup : Markup) (t : Text) :
    Except QueryError Text :=
  (format width style t).map (highlight h markup)

end SearchQuery
