import SearchQuery.Highlight.Token

/-! # Highlighting

A highlighter is a list of patterns. Earlier patterns claim text first, and later ones see only what
is still neutral.
-/

namespace SearchQuery

structure Highlighter where
  patterns : List Pattern

namespace Highlighter

/-- The patterns of query text, without keywords. A string does not start after an `@`, where it is
part of a variable, nor after a backslash. -/
def default : Highlighter where
  patterns := [
    { kind := .string, matcher := Recognizer.string.matcher, notAfter := ['@', '\\'] },
    { kind := .variableName, matcher := Recognizer.variableName.matcher },
    { kind := .boolean, matcher := Recognizer.boolean.matcher },
    { kind := .number, matcher := Recognizer.number.matcher },
    { kind := .operator, matcher := Recognizer.operator.matcher },
    { kind := .punctuation, matcher := Recognizer.punctuation.matcher }]

/-- The pattern for a list of keywords. Empty keywords do not count, and there is no pattern if none
is left. That a list can be too large for a pattern, which ends the program, is left out. -/
def keywordPattern? (keywords : List Text) : Option Pattern :=
  match keywords.filter (!·.isEmpty) with
  | [] => none
  | words => some { kind := .keyword, matcher := (Recognizer.keyword words).matcher }

/-- The same highlighter with these keywords in place of any others. -/
def withKeywords (h : Highlighter) (keywords : List Text) : Highlighter where
  patterns := h.patterns.filter (·.kind ≠ .keyword) ++ (keywordPattern? keywords).toList

/-- The fragments of a text, in order. None of them is empty. -/
def classify (h : Highlighter) (t : Text) : List Fragment :=
  (h.patterns.foldl (fun fragments p => p.refine fragments) [⟨.neutral, t⟩]).filter
    (!·.text.isEmpty)

end Highlighter

end SearchQuery
