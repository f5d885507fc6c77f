import SearchQuery.Text.Unprintable

/-! # Quoted texts

A text between double quotes in which every character can be seen: quotes and backslashes are
escaped, and what has no picture stands as a short escape or as its code point in hexadecimal.
-/

namespace SearchQuery

namespace Text

/-- How one character stands inside quotes. -/
def quotedChar (c : Char) : Text :=
  match c with
  | '\x00' => "\\0"
  | '\t' => "\\t"
  | '\r' => "\\r"
  | '\n' => "\\n"
  | '"' => "\\\""
  | '\\' => "\\\\"
  | c => if isUnprintable c then "\\u\x7b" ++ Nat.toDigits 16 c.toNat ++ "\x7d" else [c]

def quoted (t : Text) : Text := "\"" ++ t.flatMap quotedChar ++ "\""

end Text

end SearchQuery
