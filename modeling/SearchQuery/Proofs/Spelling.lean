import SearchQuery.Parse
import SearchQuery.Proofs.Word

/-! # Spellings

The rules leave open how many blanks stand between two tokens, and say when a word can stand for itself
although it looks like something else.
-/

namespace SearchQuery

namespace Query

/-- The word that the query ends with, unless it ends with a delimiter. -/
def lastWord? : Query → Option Text
  | term raw => some raw
  | marked _ value | field _ value | comparison _ value => value.lastWord?
  | _ => none

/-- The query ends with a condition that is the bare word `NOT`. -/
def endsNot : Query → Bool
  | term raw => raw = "NOT"
  | marked _ value => value.endsNot
  | _ => false

/-- A bare word that is spelled like an operator. -/
def isKeyword : Query → Bool
  | term raw => (Operator.ofText? raw).isSome
  | _ => false

end Query

/-- What is left of a word after a sign or a comparison is nothing that a condition can start with. -/
def Barren (rest : Text) : Prop := ∀ x ∈ rest.head?, x = '/'

/-- The word is not a condition behind a sign. -/
def SignFree (raw : Text) : Prop :=
  ∀ mark : Mark, mark ≠ .not → ∀ rest, raw = mark.text ++ rest → Barren rest

/-- The word is not another word behind a comparison. -/
def ComparisonFree (raw : Text) : Prop :=
  ∀ s rest, Lexeme.split Lexeme.comparison raw = some (s, rest) → Barren rest

/-- No backslash at the end of these items waits for a character. -/
def Closed (items : List Query) : Prop :=
  ∀ last ∈ items.getLast?, ∀ word ∈ last.lastWord?, dangling word = false

/-- The values of fields that no parentheses stand around. -/
inductive SpellsValue : Query → Text → Prop
  | range {left right : Edge} {lower upper b₁ b₂ b₃ b₄ : Text}
      (hlower : IsWord lower) (hclosed : dangling lower = false)
      (hupper : IsWord upper) (hclosed' : dangling upper = false)
      (h₁ : Blank b₁) (h₂ : Blank b₂) (hne₂ : b₂ ≠ []) (h₃ : Blank b₃) (hne₃ : b₃ ≠ [])
      (h₄ : Blank b₄) :
      SpellsValue (.range left lower upper right)
        (left.opening ++ (b₁ ++ (lower ++ (b₂ ++ ("TO" ++ (b₃ ++ (upper ++ (b₄ ++ right.closing))))))))
  | comparison {operand : Comparison} {raw : Text} (hraw : IsWord raw)
      (hoperand : Lexeme.Comparable operand raw) :
      SpellsValue (.comparison operand (.term raw)) (operand.text ++ raw)
  | regex {expression : Text} (hbody : IsBody '/' expression) :
      SpellsValue (.regex expression) ("/" ++ (expression ++ "/"))
  | word {raw : Text} (hraw : IsWord raw) (hfree : ComparisonFree raw) :
      SpellsValue (.term raw) raw

/-- The items are written as this text. -/
inductive Spells : List Query → Text → Prop
  | word {raw : Text} (hraw : IsWord raw) (hfree : SignFree raw) : Spells [.term raw] raw
  | parenthesized {items : List Query} {inner : Query} {s b₁ b₂ : Text}
      (hitems : Spells items s) (hclosed : Closed items) (hinner : Query.ofItems? items = some inner)
      (h₁ : Blank b₁) (h₂ : Blank b₂) :
      Spells [.parenthesized inner] ("(" ++ (b₁ ++ (s ++ (b₂ ++ ")"))))
  | negated {value : Query} {s b : Text} (hvalue : Spells [value] s) (hb : Blank b) (hne : b ≠ []) :
      Spells [.marked .not value] (Mark.not.text ++ (b ++ s))
  | signed {mark : Mark} {value : Query} {s : Text} (hmark : mark ≠ .not)
      (hvalue : Spells [value] s) : Spells [.marked mark value] (mark.text ++ s)
  | field {name : Text} {value : Query} {s : Text} (hname : IsTerm name)
      (hclosed : dangling name = false) (hfree : SignFree name) (hvalue : SpellsValue value s) :
      Spells [.field name value] (name ++ (":" ++ s))
  | fieldParenthesized {name : Text} {inner : Query} {s : Text} (hname : IsTerm name)
      (hclosed : dangling name = false) (hfree : SignFree name)
      (hvalue : Spells [.parenthesized inner] s) :
      Spells [.field name (.parenthesized inner)] (name ++ (":" ++ s))
  /-- Blanks alone join two conditions if no operator can be read after them. -/
  | either {first next : Query} {later : List Query} {s b u : Text}
      (hfirst : Spells [first] s) (hclosed : Closed [first]) (hnot : first.endsNot = false)
      (hb : Blank b) (hne : b ≠ []) (hmark : ∀ value, next ≠ .marked .not value)
      (hkeyword : next.isKeyword → later = []) (hlater : Spells (next :: later) u) :
      Spells (first :: .operator .either :: next :: later) (s ++ (b ++ u))
  /-- An operator needs no blanks next to delimiters. -/
  | operator {op : Operator} {first next : Query} {later : List Query} {s b₁ b₂ u : Text}
      (hop : op ≠ .either)
      (hfirst : Spells [first] s) (hclosed : Closed [first]) (hnot : first.endsNot = false)
      (h₁ : Blank b₁) (hglued : b₁ = [] → first.lastWord? = none)
      (h₂ : Blank b₂) (hglued' : b₂ = [] → atWordEnd u) (hlater : Spells (next :: later) u) :
      Spells (first :: .operator op :: next :: later) (s ++ (b₁ ++ (op.text ++ (b₂ ++ u))))

/-! ## First characters -/

theorem not_isSpace_of_isTermStart {x : Char} (h : isTermStart x) : isSpace x = false := by
  simp only [isTermStart, isTermChar, Bool.and_eq_true, Bool.not_eq_true'] at h
  exact h.1.1

/-- A character that a word can start with. -/
def isWordStart (x : Char) : Bool := x = '"' || isTermStart x

/-- A character that a condition can start with. -/
def isConditionStart (x : Char) : Bool := x = '(' || isWordStart x

theorem ne_of_isWordStart {x y : Char} (hx : isWordStart x) (hy : isWordStart y = false) :
    x ≠ y := by
  rintro rfl
  simp [hy] at hx

def Starts (t : Text) : Prop := ∃ x rest, t = x :: rest ∧ isConditionStart x

theorem Starts.append {t : Text} (h : Starts t) (after : Text) : Starts (t ++ after) := by
  obtain ⟨x, rest, rfl, hx⟩ := h
  exact ⟨x, rest ++ after, rfl, hx⟩

theorem Starts.ne_nil {t : Text} (h : Starts t) : t ≠ [] := by
  obtain ⟨x, rest, rfl, -⟩ := h
  simp

theorem Starts.trimmed {t : Text} (h : Starts t) : Trimmed t := by
  obtain ⟨x, rest, rfl, hx⟩ := h
  intro y hy
  obtain rfl : x = y := by simpa using hy
  simp only [isConditionStart, isWordStart, Bool.or_eq_true, decide_eq_true_eq] at hx
  rcases hx with rfl | rfl | hx
  · decide
  · decide
  · exact not_isSpace_of_isTermStart hx

theorem Starts.atWordEnd_append {t : Text} (h : Starts t) (after : Text) :
    atWordEnd (t ++ after) = atWordEnd t := by
  obtain ⟨x, rest, rfl, -⟩ := h
  rfl

theorem IsTerm.starts {s : Text} (h : IsTerm s) : Starts s := by
  obtain ⟨⟨x, hx, hstart⟩, -⟩ := h
  obtain ⟨rest, rfl⟩ := List.head?_eq_some_iff.mp hx
  exact ⟨x, rest, rfl, by simp [isConditionStart, isWordStart, hstart]⟩

theorem IsTerm.head?_append {s : Text} (h : IsTerm s) (after : Text) :
    ∃ x ∈ (s ++ after).head?, isTermStart x := by
  obtain ⟨⟨x, hx, hstart⟩, -⟩ := h
  obtain ⟨rest, rfl⟩ := List.head?_eq_some_iff.mp hx
  exact ⟨x, rfl, hstart⟩

theorem IsTerm.not_atWordEnd {s : Text} (h : IsTerm s) (after : Text) :
    atWordEnd (s ++ after) = false := by
  obtain ⟨⟨x, hx, hstart⟩, -⟩ := h
  obtain ⟨rest, rfl⟩ := List.head?_eq_some_iff.mp hx
  simp only [isTermStart, Bool.and_eq_true] at hstart
  simp [atWordEnd, hstart.1]

theorem IsWord.start {s : Text} (h : IsWord s) : ∃ x rest, s = x :: rest ∧ isWordStart x := by
  rcases h with ⟨body, tail, rfl, -, -⟩ | ⟨⟨x, hx, hstart⟩, -⟩
  · exact ⟨'"', _, rfl, rfl⟩
  · obtain ⟨rest, rfl⟩ := List.head?_eq_some_iff.mp hx
    exact ⟨x, rest, rfl, by simp [isWordStart, hstart]⟩

theorem IsWord.starts {s : Text} (h : IsWord s) : Starts s := by
  obtain ⟨x, rest, rfl, hx⟩ := h.start
  exact ⟨x, rest, rfl, by simp [isConditionStart, hx]⟩

theorem Mark.starts (mark : Mark) (t : Text) : Starts (mark.text ++ t) := by
  cases mark with
  | not => exact ⟨'N', _, rfl, by decide⟩
  | plus => exact ⟨'+', _, rfl, by decide⟩
  | minus => exact ⟨'-', _, rfl, by decide⟩

theorem Operator.isTerm {op : Operator} (h : op ≠ .either) : IsTerm op.text := by
  cases op with
  | and => exact ⟨⟨'A', rfl, by decide⟩, by decide⟩
  | or => exact ⟨⟨'O', rfl, by decide⟩, by decide⟩
  | not => exact ⟨⟨'N', rfl, by decide⟩, by decide⟩
  | either => exact absurd rfl h

theorem Operator.starts {op : Operator} (h : op ≠ .either) (t : Text) : Starts (op.text ++ t) :=
  (Operator.isTerm h).starts.append t

theorem Edge.closing_trimmed (edge : Edge) (t : Text) : Trimmed (edge.closing ++ t) := by
  cases edge with
  | inclusive =>
    intro x hx
    obtain rfl : ']' = x := by simpa [Edge.closing] using hx
    decide
  | exclusive =>
    intro x hx
    obtain rfl : '\x7d' = x := by simpa [Edge.closing] using hx
    decide

theorem Spells.starts {items : List Query} {s : Text} (h : Spells items s) : Starts s := by
  induction h with
  | word hraw => exact hraw.starts
  | parenthesized => exact ⟨'(', _, rfl, rfl⟩
  | negated => exact Mark.starts _ _
  | signed => exact Mark.starts _ _
  | field hname => exact hname.starts.append _
  | fieldParenthesized hname => exact hname.starts.append _
  | either _ _ _ _ _ _ _ _ ih => exact ih.append _
  | operator _ _ _ _ _ _ _ _ _ ih => exact ih.append _

theorem Spells.eq_of_term {raw s : Text} (h : Spells [.term raw] s) : s = raw := by
  cases h
  rfl

/-! ## Last words -/

theorem closed_singleton {q : Query} :
    Closed [q] ↔ ∀ word ∈ q.lastWord?, dangling word = false := by
  simp [Closed]

theorem closed_cons_cons {first next : Query} {later : List Query} :
    Closed (first :: next :: later) ↔ Closed (next :: later) := by
  simp [Closed]

end SearchQuery
