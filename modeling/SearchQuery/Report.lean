import SearchQuery.Markup.Html
import SearchQuery.Markup.Terminal
import SearchQuery.Parse
import SearchQuery.Text.Space

/-! # Reports

How failures are shown: on a terminal with the line of code, on one line, and as markup in which the
failing character is underlined.
-/

namespace SearchQuery

/-! ## What is said of an error -/

/-- A problem in a few words, and an explanation of it. -/
structure Diagnosis where
  problem : Text
  details : Text
deriving DecidableEq, Repr

def QueryError.diagnosis : QueryError → Diagnosis
  | mismatch m =>
    { problem := "Expected " ++ m.expectedText
      details :=
        "The query does not follow Elasticsearch query string syntax at this point.\n" ++
        "Check for unbalanced parentheses, brackets or quotes, and for operators\n" ++
        "with nothing after them." }
  | unresolved node =>
    { problem := "Illegal parser state"
      details := "Internal error: no transformation for " ++ node.rule.name ++
        ". This should not have happened! Sorry." }

/-! ## On a terminal -/

namespace Report

/-- The text with the character at a byte offset underlined, in red. -/
def mark (t : Text) (offset : Nat) : Text :=
  let parts := t.splitAround offset
  parts.before ++ Terminal.brightRed (Terminal.underline parts.culprit) ++ parts.after

def heading (file : Text) : Text := Terminal.brightRed "error" ++ ": " ++ file ++ ":"

def concise (error : QueryError) (file source : Text) : Text :=
  let position := source.positionAt error.offset
  heading file ++ Text.ofNat position.line ++ ":" ++ Text.ofNat position.column ++ " " ++
    Terminal.bold error.diagnosis.problem

/-- The bar between the number of a line and its code. -/
def bar : Text := Terminal.brightBlue "|"

/-- The error with the line of code, a caret under the failing character and an explanation. -/
def full (error : QueryError) (file source : Text) : Text :=
  let position := source.positionAt error.offset
  let code := mark (source.lineAt position.line) (source.offsetInLine error.offset)
  let number := Text.ofNat position.line
  let width := max 3 number.length
  let blank := List.replicate width ' '
  Text.trimAscii <|
    "\n" ++ concise error file source ++ "\n\n" ++
    blank ++ " " ++ bar ++ "\n" ++
    Terminal.brightBlue (Text.padLeft width number) ++ " " ++ bar ++ " " ++ code ++ "\n" ++
    blank ++ " " ++ bar ++ " " ++ Terminal.brightRed (Text.padLeft position.column "^") ++ "\n\n" ++
    error.diagnosis.details ++ "\n"

/-! ## As markup -/

/-- The attributes of the underlined character and of the message, in a class or else in red. -/
def attributes : Option Text → Text × Text
  | some name =>
    let assigned : Text := "class=\"" ++ Html.escape name ++ "\""
    (assigned, assigned)
  | none => ("style=\"text-decoration-color: red;color: red;\"", "style=\"color:red\"")

/-- The query with the failing character underlined, and a paragraph with the message. -/
def markup (error : QueryError) (source : Text) (name : Option Text) : Text :=
  let parts := source.splitAround error.offset
  let (underline, paragraph) := attributes name
  Html.escape parts.before ++ "<u " ++ underline ++ ">" ++ Html.escape parts.culprit ++ "</u>" ++
    Html.escape parts.after ++ "<p " ++ paragraph ++ ">" ++ Html.escape error.message ++ "</p>"

end Report

end SearchQuery
