import SearchQuery.Highlight.Fragment

/-! # Markup for web pages -/

namespace SearchQuery

namespace Html

/-- How a character stands in text and in attribute values. -/
def escapeChar (c : Char) : Text :=
  match c with
  | '&' => "&amp;"
  | '<' => "&lt;"
  | '>' => "&gt;"
  | '"' => "&quot;"
  | '\'' => "&#39;"
  | c => [c]

/-- The characters that cannot stand as they are. -/
def special : List Char := ['&', '<', '>', '"', '\'']

/-- A text without special characters stays as it is. -/
def escape (t : Text) : Text := if t.any special.contains then t.flatMap escapeChar else t

theorem escapeChar_of_not_special {c : Char} (h : c ∉ special) : escapeChar c = [c] := by
  fun_cases escapeChar c with
  | case1 | case2 | case3 | case4 | case5 => exact absurd (by decide) h
  | case6 c => rfl

theorem flatMap_escapeChar {t : Text} (h : ∀ c ∈ t, c ∉ special) : t.flatMap escapeChar = t := by
  induction t with
  | nil => rfl
  | cons c t ih =>
    rw [List.flatMap_cons, escapeChar_of_not_special (h c (by simp)),
      ih (fun d hd => h d (by simp [hd])), List.singleton_append]

/-- Both ways come to escaping each character. -/
theorem escape_eq_flatMap (t : Text) : escape t = t.flatMap escapeChar := by
  unfold escape
  split
  · rfl
  · rename_i hany
    apply (flatMap_escapeChar _).symm
    simpa using hany

/-- Neutral text stands as it is, and every token in an element with its class. -/
def markup (kind : TokenClass) (t : Text) : Text :=
  match kind with
  | .neutral => escape t
  | kind => "<span class=\"token " ++ kind.name ++ "\">" ++ escape t ++ "</span>"

end Html

end SearchQuery
