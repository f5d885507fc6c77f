import SearchQuery.Command.Setting

/-! # Requests

The arguments of the command line are read from left to right. The first fault among them ends the
reading, and so does a question for help or for the version.
-/

namespace SearchQuery

namespace Command

/-! ## Single arguments -/

/-- What an argument looks like by itself. -/
inductive Shape where
  /-- A long option, with a value if one is attached. -/
  | long (name : Text) (value : Option Text)
  /-- Letters of options, the last of them possibly with a value. -/
  | letters (cluster : Text)
  | plain (t : Text)
deriving DecidableEq, Repr

def Shape.of (argument : Text) : Shape :=
  match argument with
  | '-' :: '-' :: rest =>
    let name := rest.takeWhile (· ≠ '=')
    match rest.drop name.length with
    | [] => .long name none
    | _ :: value => .long name (some value)
  | '-' :: c :: rest => .letters (c :: rest)
  | _ => .plain argument

/-- An argument that can be the value of the option before it. -/
def isValue (argument : Text) : Bool :=
  match Shape.of argument with
  | .plain _ => true
  | _ => false

/-- Where reading stands after an option. -/
inductive Progress where
  | refused
  /-- Nothing but the answer to this option is wanted. -/
  | ended (s : Setting)
  | found (f : Found)
  /-- The next argument is the value of the option. -/
  | awaiting (s : Setting) (f : Found)

/-- Goes on with what was found, if anything was. -/
def Progress.ofFound? : Option Found → Progress
  | none => .refused
  | some f => .found f

def readFlag (s : Setting) (f : Found) : Progress :=
  match s with
  | .help | .version => .ended s
  | _ => .ofFound? (f.add? s [])

def readLong (known : List Setting) (name : Text) (value : Option Text) (f : Found) : Progress :=
  match known.find? (·.longName = name), value with
  | none, _ => .refused
  | some s, some v => if s.takesValue then .ofFound? (f.add? s v) else .refused
  | some s, none => if s.takesValue then .awaiting s f else readFlag s f

/-- The value that is attached to a letter, possibly after an equals sign. -/
def attachedValue : Text → Text
  | '=' :: value => value
  | value => value

/-- Letters of options. The first one that takes a value has all that follows it, if anything does. -/
def readLetters (known : List Setting) (f : Found) : Text → Progress
  | [] => .found f
  | c :: rest =>
    match known.find? (·.letter? = some c) with
    | none => .refused
    | some s =>
      if s.takesValue then
        if rest.isEmpty then .awaiting s f else .ofFound? (f.add? s (attachedValue rest))
      else
        match readFlag s f with
        | .found f => readLetters known f rest
        | other => other

def readOption (known : List Setting) (f : Found) : Shape → Progress
  | .long name value => readLong known name value f
  | .letters cluster => readLetters known f cluster
  | .plain _ => .refused

/-! ## All arguments of a task -/

/-- What the arguments of a task come to. -/
inductive Reading where
  | refused
  | ended (s : Setting)
  | found (f : Found)

def readFiles (f : Found) : List Text → Reading
  | [] => .found f
  | file :: rest =>
    match f.addFile? file with
    | none => .refused
    | some f => readFiles f rest

/-- Options and files in any order. -/
def readArguments (known : List Setting) (f : Found) : List Text → Reading
  | [] => .found f
  | argument :: rest =>
    if argument = "--".toList then readFiles f rest
    else
      match Shape.of argument with
      | .plain file =>
        match f.addFile? file with
        | none => .refused
        | some f => readArguments known f rest
      | option =>
        match readOption known f option with
        | .refused => .refused
        | .ended s => .ended s
        | .found f => readArguments known f rest
        | .awaiting s f =>
          match rest with
          | [] => .refused
          | value :: rest =>
            if isValue value then
              match f.add? s value with
              | none => .refused
              | some f => readArguments known f rest
            else
              .refused

/-! ## Tasks -/

/-- What is special about HTML: it can be a whole page, and it can mark errors with a class. -/
structure HtmlOptions where
  standalone : Bool := false
  errorClass : Option Text := none
deriving DecidableEq, Repr

/-- How text is marked up: not at all, with escape sequences, or as HTML. Escape sequences are for those
who ask for them. That a terminal gets them unasked is left out: the output counts as piped. -/
inductive Output where
  | plain
  | terminal
  | html (options : HtmlOptions)
deriving DecidableEq, Repr

/-- What is asked of a query. -/
inductive Task where
  | check
  | outline
  /-- Its canonical layout, highlighted. -/
  | format (width : Nat) (style : Style) (output : Output) (keywords : List Text)
  /-- The query as it is, highlighted. -/
  | highlight (output : Output) (keywords : List Text)
deriving DecidableEq, Repr

inductive TaskName where
  | check
  | parse
  | format
  | highlight
deriving DecidableEq, Repr

namespace TaskName

def all : List TaskName := [check, parse, format, highlight]

def text : TaskName → Text
  | check => "check"
  | parse => "parse"
  | format => "format"
  | highlight => "highlight"

def settings : TaskName → List Setting
  | check | parse => [.debug, .help, .version]
  | format =>
    [.debug, .help, .version, .width, .style, .rawControl, .html, .standalone, .errorClass, .keyword]
  | highlight => [.debug, .help, .version, .rawControl, .html, .keyword]

end TaskName

/-- Which output the settings ask for. The two kinds of markup exclude each other, and what is special
about HTML goes with HTML only. -/
def outputOf? (f : Found) : Option Output :=
  let options : HtmlOptions := ⟨f.has .standalone, (f.values .errorClass).head?⟩
  match f.has .html, f.has .rawControl with
  | true, true => none
  | true, false => some (.html options)
  | false, raw => if options = {} then some (if raw then .terminal else .plain) else none

def taskOf? (name : TaskName) (f : Found) : Option Task :=
  match name with
  | .check => some .check
  | .parse => some .outline
  | .format =>
    let width := ((f.values .width).head?.bind widthOf?).getD defaultWidth
    let style := ((f.values .style).head?.bind Style.ofName?).getD .compact
    (outputOf? f).map fun output => .format width style output (f.values .keyword)
  | .highlight => (outputOf? f).map fun output => .highlight output (f.values .keyword)

/-! ## The command line -/

/-- What the command line asks for. -/
inductive Request where
  | usage
  | help
  /-- The version of the program, under the name of a task if one was given. -/
  | version (name : Option TaskName)
  | run (task : Task) (file : Text)
deriving DecidableEq, Repr

/-- The request for a task, given the arguments after its name. -/
def requestOf? (name : TaskName) (arguments : List Text) : Option Request :=
  match readArguments name.settings {} arguments with
  | .refused => none
  | .ended .version => some (.version (some name))
  | .ended _ => some .help
  | .found f => do
    let task ← taskOf? name f
    let file ← f.files.head?
    return .run task file

/-- The request of a whole command line: options of the program, then a task with its own arguments.
There is none if the arguments are at fault. -/
def parseArguments? (f : Found) : List Text → Option Request
  | [] => some .usage
  | argument :: rest =>
    if argument = "--".toList then (if rest.isEmpty then some .usage else none)
    else
      match Shape.of argument with
      | .plain name => do requestOf? (← TaskName.all.find? (·.text = name)) rest
      | option =>
        match readOption [.debug, .help, .version] f option with
        | .refused | .awaiting _ _ => none
        | .ended .version => some (.version none)
        | .ended _ => some .help
        | .found f => parseArguments? f rest

end Command

end SearchQuery
