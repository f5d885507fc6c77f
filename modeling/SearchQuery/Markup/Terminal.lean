import SearchQuery.Highlight.Fragment

/-! # Markup for terminals

Colours and weights as escape sequences. A style that is put on last stands outside the others.
-/

namespace SearchQuery

namespace Terminal

/-- The sequence that selects a rendition. -/
def escape (code : Text) : Text := "\x1b[" ++ code ++ "m"

def bold (t : Text) : Text := escape "1" ++ t ++ escape "0"

def underline (t : Text) : Text := escape "4" ++ t ++ escape "0"

def brightRed (t : Text) : Text := escape "91" ++ t ++ escape "39"

def brightBlue (t : Text) : Text := escape "94" ++ t ++ escape "39"

/-- A colour by its parts of red, green and blue. -/
structure Colour where
  red : Nat
  green : Nat
  blue : Nat
deriving DecidableEq, Repr

def Colour.paint (c : Colour) (t : Text) : Text :=
  escape ("38;2;" ++ Text.ofNat c.red ++ ";" ++ Text.ofNat c.green ++ ";" ++ Text.ofNat c.blue) ++
    t ++ escape "39"

/-- Neutral text stays plain, punctuation is grey, and all else is bold in the colour of its class. -/
def markup (kind : TokenClass) (t : Text) : Text :=
  match kind with
  | .neutral => t
  | .string => bold (Colour.paint ⟨0x4E, 0x9A, 0x06⟩ t)
  | .variableName => bold (Colour.paint ⟨0x72, 0x9F, 0xCF⟩ t)
  | .boolean => bold (Colour.paint ⟨0xC4, 0xA0, 0x00⟩ t)
  | .number => bold (Colour.paint ⟨0xAD, 0x7F, 0xA8⟩ t)
  | .operator => bold (Colour.paint ⟨0xCC, 0x00, 0x00⟩ t)
  | .punctuation => Colour.paint ⟨0x99, 0x99, 0x99⟩ t
  | .keyword => bold (Colour.paint ⟨0x75, 0x50, 0x7B⟩ t)

end Terminal

end SearchQuery
