import SearchQuery.Text

/-! # Blank characters -/

namespace SearchQuery

/-- The characters with the Unicode property White_Space. A zero-width space is not one of them. -/
def isSpace (c : Char) : Bool :=
  let n := c.toNat
  (0x09 ≤ n && n ≤ 0x0D) || n = 0x20 || n = 0x85 || n = 0xA0 || n = 0x1680 ||
    (0x2000 ≤ n && n ≤ 0x200A) || n = 0x2028 || n = 0x2029 || n = 0x202F || n = 0x205F || n = 0x3000

/-- The ASCII blanks that are trimmed from the ends of a message. -/
def isAsciiSpace (c : Char) : Bool :=
  c = ' ' || c = '\t' || c = '\n' || c = '\x0c' || c = '\r'

/-- The text without the ASCII blanks at its two ends. -/
def Text.trimAscii (t : Text) : Text :=
  ((t.dropWhile isAsciiSpace).reverse.dropWhile isAsciiSpace).reverse

end SearchQuery
