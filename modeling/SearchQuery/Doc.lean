import SearchQuery.Text

/-! # Layout documents

A document says where lines may break. A group is laid out either flat, on one line, or broken at
all of its own breaks; whether it fits is for the printer to find out. The functions here say what a
document looks like before it is printed.
-/

namespace SearchQuery

inductive Doc where
  | text (t : Text)
  | concat (parts : List Doc)
  /-- A space if flat, a new line if broken. -/
  | softBreak
  /-- Nothing if flat, a new line if broken. -/
  | emptyBreak
  /-- A new line, flat or broken. -/
  | hardBreak
  /-- The unit that is laid out flat or broken. -/
  | group (inner : Doc)
  /-- New lines inside are indented by a further amount. -/
  | nest (amount : Nat) (inner : Doc)
  /-- New lines inside are indented to the column where this starts, plus an amount. -/
  | hang (amount : Nat) (inner : Doc)
  | enclose (opening closing : Text) (inner : Doc)
deriving Repr

namespace Doc

/-! ## Emptiness -/

mutual

/-- Nothing is printed for the document, flat or broken. -/
def isEmpty : Doc → Bool
  | text t => t.isEmpty
  | concat parts => allEmpty parts
  | softBreak | emptyBreak | hardBreak => false
  | group inner | nest _ inner | hang _ inner => inner.isEmpty
  | enclose opening closing inner => opening.isEmpty && closing.isEmpty && inner.isEmpty

def allEmpty : List Doc → Bool
  | [] => true
  | part :: later => part.isEmpty && allEmpty later

end

/-! ## Leading breaks -/

mutual

/-- The first thing that is printed is a break. -/
def startsWithBreak : Doc → Bool
  | text _ => false
  | concat parts => firstIsBreak parts
  | softBreak | emptyBreak | hardBreak => true
  | group inner | nest _ inner | hang _ inner => inner.startsWithBreak
  | enclose opening _ inner => opening.isEmpty && inner.startsWithBreak

/-- The first of the parts that is not empty starts with a break. -/
def firstIsBreak : List Doc → Bool
  | [] => false
  | part :: later => if part.isEmpty then firstIsBreak later else part.startsWithBreak

end

/-! ## Hard breaks -/

mutual

/-- A new line is printed even if the document is flat. Text that spans lines counts. -/
def hasHardBreak : Doc → Bool
  | text t => t.contains '\n'
  | concat parts => anyHardBreak parts
  | softBreak | emptyBreak => false
  | hardBreak => true
  | group inner | nest _ inner | hang _ inner | enclose _ _ inner => inner.hasHardBreak

def anyHardBreak : List Doc → Bool
  | [] => false
  | part :: later => part.hasHardBreak || anyHardBreak later

end

/-! ## Flat width -/

section

variable (measure : Text → Nat)

mutual

/-- The columns that the document takes on one line, each text measured for itself. -/
def flatWidth : Doc → Nat
  | text t => measure t
  | concat parts => flatWidths parts
  | softBreak => 1
  | emptyBreak | hardBreak => 0
  | group inner | nest _ inner | hang _ inner => inner.flatWidth
  | enclose opening closing inner => measure opening + inner.flatWidth + measure closing

def flatWidths : List Doc → Nat
  | [] => 0
  | part :: later => part.flatWidth + flatWidths later

end

end

end Doc

end SearchQuery
