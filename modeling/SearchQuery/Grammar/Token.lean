import SearchQuery.Grammar.Reader
import SearchQuery.Text.Space

/-! # Tokens of the grammar -/

namespace SearchQuery

/-! ## Terms -/

/-- The characters that end a term, blanks aside. -/
def termStops : List Char := ['(', ')', '[', ']', '{', '}', ':', '"']

/-- A character that can stand in a term without a backslash. -/
def isTermChar (c : Char) : Bool := !isSpace c && !termStops.contains c

/-- A character that can start a term. A slash cannot, as it starts a regular expression. -/
def isTermStart (c : Char) : Bool := isTermChar c && c ≠ '/'

/-- The term characters that a text starts with. A backslash takes the next character along, and
stands alone at the end of the text. -/
def termRun (t : Text) : Text := t.escapedRun isTermChar

/-- A word stops here: no term character follows. -/
def atWordEnd : Text → Bool
  | [] => true
  | c :: _ => !isTermChar c

namespace Token

open Reader

def literal (token : Text) : Reader Tree := fun c =>
  if token.isPrefixOf c.rest then leaf .terminal token c else miss (.literal token) c

def oneOf (tokens : List Text) : Reader Tree := firstOf (tokens.map literal)

/-- A token that no longer term starts with, so that `ANDROID` does not hold the operator `AND`. -/
def keyword (token : Text) : Reader Tree := fun c =>
  if token.isPrefixOf c.rest && atWordEnd (c.rest.drop token.length) then
    leaf .terminal token c
  else
    miss (.literal token) c

/-- Any number of blanks. -/
def spaces : Reader Tree := fun c => leaf .spaces (c.rest.takeWhile isSpace) c

def whitespace : Reader Tree := fun c =>
  match c.rest with
  | [] => miss (.described "whitespace") c
  | first :: _ => if isSpace first then spaces c else miss (.described "whitespace") c

def term : Reader Tree := fun c =>
  match c.rest with
  | [] => miss (.described "a term") c
  | first :: _ =>
    if isTermStart first then leaf .terminal (termRun c.rest) c else miss (.described "a term") c

/-- What stands before the next `close`. It is missed at the end of the text if there is none. -/
def body (close : Char) : Reader Tree := fun c =>
  match c.rest.delimited close with
  | some (taken, _) => leaf .terminal taken c
  | none => ⟨[⟨c.offset + c.rest.byteSize, .literal [close]⟩], none⟩

def wordTail : Reader Tree := fun c => leaf .terminal (termRun c.rest) c

/-- A phrase between quotes, with whatever is attached to it, as in `"quick fox"~2`. -/
def phrase : Reader Tree := node .terminal do
  let _ ← literal "\""
  let _ ← body '"'
  let _ ← literal "\""
  let _ ← wordTail
  return []

def word : Reader Tree := firstOf [phrase, term]

def endOfInput : Reader Unit := fun c =>
  if c.rest.isEmpty then ⟨[], some ((), c)⟩ else miss (.described "end of input") c

end Token

end SearchQuery
