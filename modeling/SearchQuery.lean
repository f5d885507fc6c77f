import SearchQuery.Command
import SearchQuery.Command.Request
import SearchQuery.Command.Setting
import SearchQuery.Doc
import SearchQuery.Doc.Print
import SearchQuery.Format
import SearchQuery.Grammar
import SearchQuery.Grammar.Reader
import SearchQuery.Grammar.Token
import SearchQuery.Highlight
import SearchQuery.Highlight.Fragment
import SearchQuery.Highlight.Pattern
import SearchQuery.Highlight.Recognizer
import SearchQuery.Highlight.Token
import SearchQuery.Loading
import SearchQuery.Main
import SearchQuery.Markup
import SearchQuery.Markup.Html
import SearchQuery.Markup.Terminal
import SearchQuery.Mismatch
import SearchQuery.Page
import SearchQuery.Parse
import SearchQuery.Proofs.Attempts
import SearchQuery.Proofs.Beginning
import SearchQuery.Proofs.Clean
import SearchQuery.Proofs.Elements
import SearchQuery.Proofs.Ending
import SearchQuery.Proofs.ErrorMarkup
import SearchQuery.Proofs.Fit
import SearchQuery.Proofs.FixedPoint
import SearchQuery.Proofs.Flat
import SearchQuery.Proofs.Fragments
import SearchQuery.Proofs.Items
import SearchQuery.Proofs.Keywords
import SearchQuery.Proofs.Layout
import SearchQuery.Proofs.Leading
import SearchQuery.Proofs.Lexeme
import SearchQuery.Proofs.LineWidth
import SearchQuery.Proofs.Lossless
import SearchQuery.Proofs.Mismatch
import SearchQuery.Proofs.OneLine
import SearchQuery.Proofs.Peg
import SearchQuery.Proofs.Placement
import SearchQuery.Proofs.Pointing
import SearchQuery.Proofs.Positions
import SearchQuery.Proofs.Progress
import SearchQuery.Proofs.Reader
import SearchQuery.Proofs.Reading
import SearchQuery.Proofs.Recognition
import SearchQuery.Proofs.Record
import SearchQuery.Proofs.RoundTrip
import SearchQuery.Proofs.Scan
import SearchQuery.Proofs.Slots
import SearchQuery.Proofs.SourceOrder
import SearchQuery.Proofs.Spacing
import SearchQuery.Proofs.Spelling
import SearchQuery.Proofs.Stepping
import SearchQuery.Proofs.Strings
import SearchQuery.Proofs.Styles
import SearchQuery.Proofs.Trace
import SearchQuery.Proofs.Unambiguous
import SearchQuery.Proofs.Viable
import SearchQuery.Proofs.Walk
import SearchQuery.Proofs.WellFormed
import SearchQuery.Proofs.WholeWords
import SearchQuery.Proofs.Widening
import SearchQuery.Proofs.Word
import SearchQuery.Query
import SearchQuery.Query.Layout
import SearchQuery.Query.Outline
import SearchQuery.Report
import SearchQuery.Text
import SearchQuery.Text.CaseFold
import SearchQuery.Text.Emoji
import SearchQuery.Text.Position
import SearchQuery.Text.Quoted
import SearchQuery.Text.Ranges
import SearchQuery.Text.Space
import SearchQuery.Text.Unprintable
import SearchQuery.Text.Wide
import SearchQuery.Text.Width
import SearchQuery.Text.Word
import SearchQuery.Text.ZeroWidth
import SearchQuery.Trace
import SearchQuery.Tree

/-! # Search queries

Parsing, formatting and highlighting of query strings, the command line around them, and what is proved
of all of it.
-/
