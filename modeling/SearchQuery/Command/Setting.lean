import SearchQuery.Query.Layout

/-! # Options of the command line

An option is known by a long name, some also by a letter. An option that takes a value has it attached
(`-w20`, `-w=20`, `--width=20`) or as the next argument.
-/

namespace SearchQuery

namespace Command

inductive Setting where
  /-- Asks for a log. -/
  | debug
  | help
  | version
  | width
  | style
  | rawControl
  | html
  | standalone
  | errorClass
  | keyword
deriving DecidableEq, Repr

namespace Setting

def longName : Setting → Text
  | debug => "debug"
  | help => "help"
  | version => "version"
  | width => "width"
  | style => "style"
  | rawControl => "raw-control-chars"
  | html => "html"
  | standalone => "standalone"
  | errorClass => "error-class"
  | keyword => "keyword"

def letter? : Setting → Option Char
  | help => some 'h'
  | version => some 'V'
  | width => some 'w'
  | style => some 's'
  | rawControl => some 'R'
  | keyword => some 'k'
  | debug | html | standalone | errorClass => none

def takesValue : Setting → Bool
  | width | style | errorClass | keyword => true
  | debug | help | version | rawControl | html | standalone => false

/-- Only keywords may be given more than once. -/
def isRepeatable : Setting → Bool
  | keyword => true
  | _ => false

end Setting

/-! ## Values -/

/-- The value of a row of decimal digits, of which there must be one. -/
def decimalValue? (digits : Text) : Option Nat :=
  if !digits.isEmpty && digits.all Char.isDigit then
    some (digits.foldl (fun n c => 10 * n + (c.toNat - '0'.toNat)) 0)
  else
    none

/-- A width: decimal digits, possibly after a plus sign, of a number below 2 ^ 64. -/
def widthOf? (t : Text) : Option Nat :=
  let digits := match t with
    | '+' :: rest => rest
    | _ => t
  (decimalValue? digits).filter (· < Nat.pow 2 64)

def Setting.accepts (s : Setting) (value : Text) : Bool :=
  match s with
  | .width => (widthOf? value).isSome
  | .style => (Style.ofName? value).isSome
  | _ => true

/-! ## What was found -/

/-- The settings that were given, with their values, and the files. -/
structure Found where
  settings : List (Setting × Text) := []
  files : List Text := []
deriving DecidableEq, Repr

namespace Found

def has (f : Found) (s : Setting) : Bool := f.settings.any (·.1 = s)

def values (f : Found) (s : Setting) : List Text :=
  (f.settings.filter (·.1 = s)).map Prod.snd

/-- Adds a setting. It must be new unless it is repeatable, and its value must be one that it can
have. -/
def add? (f : Found) (s : Setting) (value : Text) : Option Found :=
  if (f.has s && !s.isRepeatable) || !s.accepts value then none
  else some { f with settings := f.settings ++ [(s, value)] }

/-- Adds a file. There is only one. -/
def addFile? (f : Found) (file : Text) : Option Found :=
  if f.files.isEmpty then some { f with files := [file] } else none

end Found

end Command

end SearchQuery
