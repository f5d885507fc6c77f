import SearchQuery.Text.Emoji
import SearchQuery.Text.Wide
import SearchQuery.Text.ZeroWidth

/-! # Display width

The number of columns that a text takes in a terminal. Most characters take one, wide ones two,
combining ones none. Some take less or more because of what follows them: emoji with selectors, skin
tones and joiners, flags, and the ligatures of a few scripts. So a text is measured from its end,
and each character is given what the text after it starts with.
-/

namespace SearchQuery

/-! ## What follows a character -/

/-- The variation selectors that a text starts with. They ask for the character in front of them as
an emoji, as text, or as wide as an ideograph. -/
structure Selectors where
  emoji : Bool := false
  text : Bool := false
  fullwidth : Bool := false
deriving DecidableEq, Repr

/-- An emoji behind a joiner, and what was already read in front of that joiner. -/
inductive JoinedEmoji where
  | bare
  | keycap
  | indicator
  | evenIndicators
  | oddIndicators
  | tagLetters (count : Nat)
  | tagDigits (count : Nat)
deriving DecidableEq, Repr

/-- A letter that forms a ligature with a letter in front of it. -/
inductive LigatureEnd where
  | arabicAlef
  | hebrewLamed
  | bugineseYa
  | bugineseVowelYa
  | tifinaghConsonant
  | tifinaghJoined
  | lisuTone
  | oldTurkicI
  | khmerLetter
deriving DecidableEq, Repr

/-- The start of a text, as far as it matters for the width of a character in front of it. -/
inductive TextStart where
  | plain
  | lineFeed
  | emoji
  | skinTone
  | indicator
  | indicators
  | joined (what : JoinedEmoji)
  | ligature (what : LigatureEnd) (joiner : Bool)
  | kiratRaiE
  | kiratRaiAi
deriving DecidableEq, Repr

/-- The start of a text, possibly behind variation selectors. -/
structure WidthContext where
  start : TextStart := .plain
  selectors : Selectors := {}
deriving DecidableEq, Repr

namespace WidthContext

/-- Ligatures are formed across variation selectors. -/
def isLigature (next : WidthContext) : Bool :=
  match next.start with
  | .ligature _ _ => true
  | _ => false

/-- One more selector in front. It joins those that stand before a ligature, and hides any other
start. -/
def withSelector (next : WidthContext) (add : Selectors → Selectors) : WidthContext :=
  if next.isLigature then { next with selectors := add next.selectors }
  else { selectors := add {} }

/-- One more emoji selector in front. An emoji behind a joiner can still be seen through it. -/
def withEmojiSelector (next : WidthContext) : WidthContext :=
  match next.start with
  | .joined .bare | .joined .keycap => { next with selectors := { emoji := true } }
  | _ => next.withSelector fun s => { s with emoji := true }

/-- What is left if the character in front ignores the emoji selector. -/
def withoutEmojiSelector (next : WidthContext) : WidthContext :=
  if next.isLigature then { next with selectors := { next.selectors with emoji := false } } else {}

end WidthContext

/-! ## Classes of characters -/

def isIndicator (n : Nat) : Bool := 0x1F1E6 ≤ n && n ≤ 0x1F1FF

def isSkinTone (n : Nat) : Bool := 0x1F3FB ≤ n && n ≤ 0x1F3FF

def isTagLetter (n : Nat) : Bool := 0xE0061 ≤ n && n ≤ 0xE007A

def isTagDigit (n : Nat) : Bool := 0xE0030 ≤ n && n ≤ 0xE0039

def isTifinaghConsonant (n : Nat) : Bool := (0x2D31 ≤ n && n ≤ 0x2D65) || n = 0x2D6F

/-- A quotation mark, which a fullwidth selector makes wide. -/
def isFullwidthBase (n : Nat) : Bool := n = 0x2018 || n = 0x2019 || n = 0x201C || n = 0x201D

/-- A character that a text selector makes narrow. -/
def isTextBase (n : Nat) : Bool :=
  presentationBaseRanges.holds n && emojiRanges.holds n && !(0x1F200 ≤ n && n ≤ 0x1F2FF)

def arabicAlefRanges : CharRanges :=
  [(0x622, 0x623), (0x625, 0x625), (0x627, 0x627), (0x671, 0x673), (0x675, 0x675), (0x773, 0x774),
    (0x870, 0x882)]

def arabicLamRanges : CharRanges :=
  [(0x644, 0x644), (0x6B5, 0x6B8), (0x76A, 0x76A), (0x8A6, 0x8A6), (0x8C7, 0x8C7)]

/-- Khmer letters that can stand below another letter. -/
def khmerLetterRanges : CharRanges :=
  [(0x1780, 0x1782), (0x1784, 0x1787), (0x1789, 0x178C), (0x178E, 0x1793), (0x1795, 0x1798),
    (0x179B, 0x179D), (0x17A0, 0x17A0), (0x17A2, 0x17A2), (0x17A7, 0x17A7), (0x17AB, 0x17AC),
    (0x17AF, 0x17AF)]

/-- Marks that do not keep the letters around them from forming a ligature. -/
def ligatureMarkRanges : CharRanges :=
  [(0x34F, 0x34F), (0x17B4, 0x17B5), (0x180B, 0x180D), (0x180F, 0x180F), (0xFE00, 0xFE0F),
    (0xE0100, 0xE01EF)]

/-! ## One character by itself -/

/-- The columns of a character whatever is around it. -/
def charWidth (n : Nat) : Nat :=
  if n ≤ 0xA0 || n = 0x2D7F then 1
  else if n = 0x115F || n = 0x17A4 then 2
  else if n = 0x17D8 then 3
  else if zeroWidthRanges.holds n then 0
  else if wideRanges.holds n then 2
  else 1

/-- What a character is to the one in front of it. -/
def contextOf (n : Nat) : WidthContext :=
  if n = 0x0A then { start := .lineFeed }
  else if n ≤ 0xA0 then {}
  else if n = 0xFE0F then { selectors := { emoji := true } }
  else if n = 0xFE0E then { selectors := { text := true } }
  else if n = 0xFE01 then { selectors := { fullwidth := true } }
  else if isSkinTone n then { start := .skinTone }
  else if isIndicator n then { start := .indicator }
  else if emojiRanges.holds n then { start := .emoji }
  else if arabicAlefRanges.holds n then { start := .ligature .arabicAlef false }
  else if n = 0x05DC then { start := .ligature .hebrewLamed false }
  else if n = 0x1A10 then { start := .ligature .bugineseYa false }
  else if isTifinaghConsonant n then { start := .ligature .tifinaghConsonant false }
  else if n = 0xA4FC || n = 0xA4FD then { start := .ligature .lisuTone true }
  else if n = 0x10C03 then { start := .ligature .oldTurkicI false }
  else if khmerLetterRanges.holds n then { start := .ligature .khmerLetter true }
  else if n = 0x16D67 then { start := .kiratRaiE }
  else if n = 0x16D68 then { start := .kiratRaiAi }
  else {}

/-! ## A character in front of a text -/

/-- What a character adds to the width when a ligature or a sequence has taken it in, and what the
two are together. -/
abbrev Merged := Option (Int × WidthContext)

/-- A character in front of an emoji that stands behind a joiner. -/
def mergeJoined (n : Nat) : JoinedEmoji → Merged
  | .bare =>
    if n = 0x20E3 then some (0, { start := .joined .keycap })
    else if isIndicator n then some (1, { start := .joined .indicator })
    else if isSkinTone n then some (0, { start := .skinTone })
    else if n = 0xE007F then some (0, { start := .joined (.tagLetters 0) })
    else if emojiRanges.holds n then some (0, { start := .emoji })
    else none
  | .keycap => none
  | .indicator => if isIndicator n then some (-1, { start := .joined .evenIndicators }) else none
  | .evenIndicators =>
    if isIndicator n then some (3, { start := .joined .oddIndicators })
    else if n = 0x200D then some (0, { start := .joined .bare })
    else none
  | .oddIndicators =>
    if isIndicator n then some (-1, { start := .joined .evenIndicators })
    else if n = 0x200D then some (0, { start := .joined .bare })
    else none
  | .tagLetters count =>
    if isTagLetter n && count < 6 then some (0, { start := .joined (.tagLetters (count + 1)) })
    else if isTagDigit n && count < 5 then some (0, { start := .joined (.tagDigits 1) })
    else if n = 0x1F3F4 && 3 ≤ count then some (0, { start := .emoji })
    else none
  | .tagDigits count =>
    if isTagDigit n && count < 3 then some (0, { start := .joined (.tagDigits (count + 1)) })
    else if n = 0x1F3F4 && count = 3 then some (0, { start := .emoji })
    else none

/-- A character in front of a letter that it may form a ligature with, possibly across a joiner. -/
def mergeLetter (n : Nat) (what : LigatureEnd) (joiner : Bool) : Merged :=
  match what, joiner with
  | .hebrewLamed, true => if n = 0x05D0 then some (0, {}) else none
  | .bugineseYa, true =>
    if n = 0x1A17 then some (0, { start := .ligature .bugineseVowelYa true }) else none
  | .bugineseVowelYa, _ => if n = 0x1A15 then some (0, {}) else none
  | .tifinaghConsonant, joined =>
    if n = 0x2D7F then some (1, { start := .ligature .tifinaghJoined true })
    else if joined && isTifinaghConsonant n then some (0, {})
    else none
  | .tifinaghJoined, _ => if isTifinaghConsonant n then some (-1, {}) else none
  | .lisuTone, _ => if 0xA4F8 ≤ n && n ≤ 0xA4FB then some (0, {}) else none
  | .oldTurkicI, true => if n = 0x10C32 then some (0, {}) else none
  | .khmerLetter, _ => if n = 0x17D2 then some (-1, {}) else none
  | _, _ => none

/-- A character in front of the end of a ligature. An alef is joined across all transparent
characters, the other letters across joiners and a few marks. -/
def mergeLigature (n : Nat) (what : LigatureEnd) (joiner : Bool) : Merged :=
  match what with
  | .arabicAlef =>
    if arabicLamRanges.holds n then some (0, {})
    else if isTransparent n then some (0, { start := .ligature .arabicAlef false })
    else none
  | what =>
    if n = 0x200D then some (0, { start := .ligature what true })
    else if ligatureMarkRanges.holds n then some (0, { start := .ligature what joiner })
    else mergeLetter n what joiner

/-- A character in front of a text that starts in this way. -/
def mergeStart (n : Nat) : TextStart → Merged
  | .plain | .lineFeed => none
  | .emoji => if n = 0x200D then some (0, { start := .joined .bare }) else none
  | .skinTone =>
    if modifierBaseRanges.holds n then some (0, { start := .emoji })
    else if n = 0x200D then some (0, { start := .joined .bare })
    else none
  | .indicator => if isIndicator n then some (1, { start := .indicators }) else none
  | .indicators =>
    if isIndicator n then some (1, { start := .indicators })
    else if n = 0x200D then some (0, { start := .joined .bare })
    else none
  | .joined what => mergeJoined n what
  | .ligature what joiner => mergeLigature n what joiner
  | .kiratRaiE =>
    if n = 0x16D63 || n = 0x16D69 then some (0, {})
    else if n = 0x16D67 then some (0, { start := .kiratRaiAi })
    else if n = 0x16D68 then some (1, { start := .kiratRaiE })
    else none
  | .kiratRaiAi => if n = 0x16D63 then some (0, {}) else none

/-- A character beyond ASCII in front of a text. Selectors wait for the character in front of them,
and if it ignores them, all is as without them. -/
def mergeWide (n : Nat) (next : WidthContext) : Merged :=
  if n = 0xFE0F then some (0, next.withEmojiSelector)
  else if n = 0xFE0E then some (0, next.withSelector fun s => { s with text := true })
  else if n = 0xFE01 then some (0, next.withSelector fun s => { s with fullwidth := true })
  else if next.selectors.text && isTextBase n then some (1, {})
  else if next.selectors.fullwidth && isFullwidthBase n then some (2, {})
  else mergeStart n next.start

/-- What a character adds to the width of a text that it is put in front of, and what the longer
text starts with. -/
def widthStep (c : Char) (next : WidthContext) : Int × WidthContext :=
  let n := c.toNat
  if next.selectors.emoji && presentationBaseRanges.holds n then
    let joined := match next.start with
      | .joined _ => true
      | _ => false
    (if joined then 0 else 2, { start := .emoji })
  else
    let next := if next.selectors.emoji then next.withoutEmojiSelector else next
    if n = 0x0D && next.start = .lineFeed then (0, {})
    else if n ≤ 0xA0 then (1, contextOf n)
    else (mergeWide n next).getD (charWidth n, contextOf n)

/-! ## Texts -/

/-- The width of a text and what it starts with. -/
def widthAndStart : Text → Int × WidthContext
  | [] => (0, {})
  | c :: rest =>
    let (width, next) := widthAndStart rest
    let (added, start) := widthStep c next
    (width + added, start)

def Text.width (t : Text) : Nat := (widthAndStart t).1.toNat

end SearchQuery
