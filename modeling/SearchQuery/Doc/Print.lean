import SearchQuery.Doc
import SearchQuery.Text.Position

/-! # Printing documents

The printer walks over a document with a column and an indentation and writes strokes. At a group that
is not inside a flat one it looks whether the group fits on the rest of the line. What cannot be
broken runs over the width.
-/

namespace SearchQuery

/-- Whether breaks are printed as they are when flat, or as new lines. -/
inductive Mode where
  | flat
  | broken
deriving DecidableEq, Repr

/-- How a group was found to fit, and where. -/
structure Decision where
  column : Nat
  needed : Nat
  fits : Bool
deriving DecidableEq, Repr

/-- One thing that the printer does. -/
inductive Stroke where
  | write (mode : Mode) (t : Text)
  | newline (indent : Nat)
  | decide (decision : Decision)
deriving DecidableEq, Repr

def Stroke.text : Stroke → Text
  | write _ t => t
  | newline indent => '\n' :: List.replicate indent ' '
  | decide _ => []

/-- The strokes for a document, and the column after them. -/
structure Printed where
  strokes : List Stroke
  column : Nat
deriving DecidableEq, Repr

def Printed.text (printed : Printed) : Text := printed.strokes.flatMap Stroke.text

namespace Doc

section

variable (measure : Text → Nat) (width : Nat)

/-- Writes a text. After a text that spans lines the column is the width of its last line. -/
def writeText (mode : Mode) (t : Text) (column : Nat) : Printed :=
  ⟨[.write mode t], if t.contains '\n' then measure t.lastLine else column + measure t⟩

def startLine (indent : Nat) : Printed := ⟨[.newline indent], indent⟩

/-- Whether a document fits on the line from a column on. -/
def decideFit (inner : Doc) (column : Nat) : Decision :=
  let needed := inner.flatWidth measure
  ⟨column, needed, column + needed ≤ width && !inner.hasHardBreak⟩

mutual

def print (mode : Mode) (indent column : Nat) : Doc → Printed
  | text t => writeText measure mode t column
  | concat parts => printAll mode indent column parts
  | softBreak =>
    match mode with
    | .flat => writeText measure mode " " column
    | .broken => startLine indent
  | emptyBreak =>
    match mode with
    | .flat => ⟨[], column⟩
    | .broken => startLine indent
  | hardBreak => startLine indent
  | group inner =>
    match mode with
    | .flat => print .flat indent column inner
    | .broken =>
      let decision := decideFit measure width inner column
      let printed := print (if decision.fits then .flat else .broken) indent column inner
      ⟨.decide decision :: printed.strokes, printed.column⟩
  | nest amount inner => print mode (indent + amount) column inner
  | hang amount inner => print mode (column + amount) column inner
  | enclose opening closing inner =>
    let first := writeText measure mode opening column
    let middle := print mode indent first.column inner
    let last := writeText measure mode closing middle.column
    ⟨first.strokes ++ middle.strokes ++ last.strokes, last.column⟩

def printAll (mode : Mode) (indent column : Nat) : List Doc → Printed
  | [] => ⟨[], column⟩
  | part :: later =>
    let first := print mode indent column part
    let rest := printAll mode indent first.column later
    ⟨first.strokes ++ rest.strokes, rest.column⟩

end

/-- The document on a page of the given width. Outside of groups all breaks are new lines. -/
def printPage (doc : Doc) : Printed := print measure width .broken 0 0 doc

end

end Doc

end SearchQuery
