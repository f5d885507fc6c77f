import SearchQuery.Highlight.Pattern

/-! # Tokens of query text

What strings, variables, numbers and the other tokens look like to the highlighter.
-/

namespace SearchQuery

namespace Recognizer

def exactly (c : Char) : Recognizer := char (· = c)

def among (cs : Text) : Recognizer := char cs.contains

def quotedBy (quote : Char) : Recognizer := exactly quote ++ upTo quote fun _ => true

/-- A stretch between two equal quotes with something in it. -/
def filledBy (quote : Char) : Recognizer := exactly quote ++ upTo quote fun body => !body.isEmpty

def string : Recognizer := oneOf [quotedBy '"', quotedBy '\'']

def isNameChar (c : Char) : Bool := isAsciiWordChar c || c = '.' || c = '$'

def variableName : Recognizer :=
  oneOf [exactly '@' ++ run1 isNameChar, exactly '@' ++ filledBy '"', exactly '@' ++ filledBy '\'',
    exactly '@' ++ filledBy '\x60']

def boolean : Recognizer := oneOf (["true", "false", "null"].map fun w => wholeWord w.toList)

def isHexDigit (c : Char) : Bool :=
  c.isDigit || ('a' ≤ c && c ≤ 'f') || ('A' ≤ c && c ≤ 'F')

/-- A hexadecimal number, a number that starts with a digit, or a fraction that starts with its
point. -/
def number : Recognizer :=
  oneOf [
    boundary ++ word "0x" ++ run1 isHexDigit ++ boundary,
    boundary ++ run1 Char.isDigit ++ optional (exactly '.') ++ run Char.isDigit,
    noBoundary ++ exactly '.' ++ run1 Char.isDigit ++ boundary]

def operatorWords : List String := ["AND", "OR", "TO", "NOT", "_exists_"]

def operator : Recognizer :=
  oneOf ([
    among "-+/=%^~",
    exactly '&' ++ optional (exactly '&'),
    exactly '|' ++ optional (exactly '|'),
    exactly '!' ++ optional (exactly '='),
    exactly '<' ++ optional (oneOf [exactly '=' ++ optional (exactly '>'), among "<>"]),
    exactly '>' ++ optional (among ">=")] ++
    operatorWords.map fun w => wholeWord w.toList)

def punctuation : Recognizer := among ";[]\x7b\x7d()\x60,."

def keyword (words : List Text) : Recognizer := oneOf (words.map wholeWord)

end Recognizer

end SearchQuery
