import SearchQuery.Command.Request
import SearchQuery.Loading
import SearchQuery.Markup
import SearchQuery.Page
import SearchQuery.Query.Outline
import SearchQuery.Report

/-! # The command line

What the program writes and how it ends, as a function of its arguments and of the query that they
name.
-/

namespace SearchQuery

namespace Command

/-- How a run of the program ends and what it writes. -/
structure Response where
  exit : Nat := 0
  output : Text := []
  errors : Text := []
deriving DecidableEq, Repr

namespace Response

def write (t : Text) : Response := { output := t }

/-- Writes one message for a person and ends badly. -/
def fail (message : Text) : Response := { exit := 1, errors := message ++ "\n" }

/-- The answer to arguments that are at fault. One message stands for all: it does not say which argument
it is, and why. -/
def refuse : Response := { exit := 2, errors := "error: unexpected arguments\n" }

end Response

def loadingReport (error : LoadingError) (file : Text) : Text :=
  Report.heading file ++ Terminal.bold error.problem

def Output.markup : Output → Markup
  | .plain => Markup.plain
  | .terminal => Terminal.markup
  | .html _ => Html.markup

def highlighterFor (keywords : List Text) : Highlighter := Highlighter.default.withKeywords keywords

/-- The answer for a query that cannot be parsed. With HTML the query itself is written, with its
failure marked, and the message is short. -/
def explain (error : QueryError) (file content : Text) : Output → Response
  | .html options =>
    { exit := 1
      output := Report.markup error content options.errorClass ++ "\n"
      errors := Report.concise error file content ++ "\n" }
  | _ => .fail (Report.full error file content)

/-- A formatted query as it is written: a whole page if one is asked for, else on lines of its own. -/
def present (file marked : Text) : Output → Text
  | .html { standalone := true, .. } => Page.render file marked
  | _ => marked ++ "\n"

namespace Task

def answer (task : Task) (file content : Text) : Response :=
  match task with
  | .check =>
    match SearchQuery.parse content with
    | .ok _ => {}
    | .error e => explain e file content .plain
  | .outline =>
    match SearchQuery.parse content with
    | .ok query => .write (query.outline.indented 0 ++ "\n")
    | .error e => explain e file content .plain
  | .format width style output keywords =>
    match prettify width style (highlighterFor keywords) output.markup content with
    | .ok marked => .write (present file marked output)
    | .error e => explain e file content output
  | .highlight output keywords =>
    .write (SearchQuery.highlight (highlighterFor keywords) output.markup content)

end Task

/-- It stands for the text of `--help`, too, which would go on to describe each task and option. -/
def usageText : Text :=
  "usage: esquery [COMMAND] ...\n" ++ "Try '--help' for more information.\n"

def versionText (name : Option TaskName) : Text :=
  let task : Text := match name with
    | none => ""
    | some name => "-" ++ name.text
  "esquery" ++ task ++ " v0.1.0\n"

def Request.file? : Request → Option Text
  | .run _ file => some file
  | _ => none

/-- The answer to a request, given how queries are loaded. -/
def Request.answer (request : Request) (load : Text → Except LoadingError Text) : Response :=
  match request with
  | .usage => .write usageText
  | .help => .write usageText
  | .version name => .write (versionText name)
  | .run task file =>
    match load file with
    | .error e => .fail (loadingReport e file)
    | .ok content => task.answer file content

/-- A whole run of the program: its arguments, and where queries come from. With `--debug` the program also
logs to its errors. The log has times in it and is no part of the response; `formatEvents` has what is
logged on the way to a layout. -/
def respond (source : Source) (arguments : List Text) : Response :=
  match parseArguments? {} arguments with
  | none => .refuse
  | some request => request.answer source.load

end Command

end SearchQuery
