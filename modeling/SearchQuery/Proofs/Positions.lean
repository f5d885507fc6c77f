import Mathlib.Data.Prod.Lex
import Mathlib.Order.Monotone.Defs
import SearchQuery.Proofs.Pointing

/-! # Positions in reading order -/

namespace SearchQuery

/-- A position for comparison: by lines first, then by columns. -/
def Position.key (p : Position) : Nat ×ₗ Nat := toLex (p.line, p.column)

namespace Text

/-! ## One character further -/

/-- The position of what comes after a text. -/
def positionAfter (front : Text) : Position where
  line := front.count '\n' + 1
  column := (lastLine front).length + 1

theorem lastLine_concat {c : Char} (h : c ≠ '\n') (front : Text) :
    lastLine (front ++ [c]) = lastLine front ++ [c] := by
  have hreverse : (front ++ [c]).reverse = c :: front.reverse := by simp
  rw [lastLine, hreverse, List.takeWhile_cons_of_pos (by simpa using h), List.reverse_cons, lastLine]

theorem key_concat (front : Text) (c : Char) :
    (positionAfter front).key < (positionAfter (front ++ [c])).key := by
  unfold positionAfter Position.key
  rw [Prod.Lex.toLex_lt_toLex]
  by_cases hc : c = '\n'
  · left
    simp [hc]
  · right
    simp [lastLine_concat hc, hc]

theorem key_append (front : Text) {s : Text} (hs : s ≠ []) :
    (positionAfter front).key < (positionAfter (front ++ s)).key := by
  induction s generalizing front with
  | nil => exact absurd rfl hs
  | cons c s ih =>
    have hfirst := key_concat front c
    by_cases hlater : s = []
    · rwa [hlater]
    · have hrest := ih (front ++ [c]) hlater
      rw [List.append_assoc, List.singleton_append] at hrest
      exact hfirst.trans hrest

/-! ## Places in a text -/

theorem liesAt_byteSize (front back : Text) :
    (front ++ back).LiesAt front.byteSize front back := by
  refine ⟨rfl, le_rfl, ?_⟩
  intro c _
  have := c.utf8Size_pos
  omega

theorem liesAt_inside (front : Text) {c : Char} (back : Text) {k : Nat} (hk : k < c.utf8Size) :
    (front ++ c :: back).LiesAt (front.byteSize + k) front (c :: back) := by
  refine ⟨rfl, Nat.le_add_right .., ?_⟩
  intro d hd
  obtain rfl : c = d := by simpa using hd
  omega

theorem LiesAt.positionAt_eq {t front back : Text} {offset : Nat} (h : t.LiesAt offset front back) :
    t.positionAt offset = positionAfter front := by
  rw [positionAt, h.splitAtByte_eq]
  rfl

/-- Of two places in a text, the one with the smaller offset has the smaller position. -/
theorem key_lt_key {front back front' back' : Text} (h : front ++ back = front' ++ back')
    (hlt : front.byteSize < front'.byteSize) :
    (positionAfter front).key < (positionAfter front').key := by
  rcases List.append_eq_append_iff.mp h with ⟨s, rfl, -⟩ | ⟨s, rfl, -⟩
  · apply key_append front
    rintro rfl
    simp at hlt
  · rw [byteSize_append] at hlt
    omega

theorem key_strictMonoOn (t : Text) :
    StrictMonoOn (fun offset => (t.positionAt offset).key) {offset | t.IsBoundary offset} := by
  rintro _ ⟨front, back, rfl, rfl⟩ _ ⟨front', back', htext, rfl⟩ hlt
  have hfront := (liesAt_byteSize front back).positionAt_eq
  have hfront' := (liesAt_byteSize front' back').positionAt_eq
  rw [← htext] at hfront'
  simp only [hfront, hfront']
  exact key_lt_key htext hlt

theorem positionAt_eq_iff {t : Text} {offset offset' : Nat} :
    t.positionAt offset = t.positionAt offset' ↔ splitAtByte offset t = splitAtByte offset' t := by
  constructor
  · intro h
    obtain ⟨front, back, hlies⟩ := t.exists_liesAt offset
    obtain ⟨front', back', hlies'⟩ := t.exists_liesAt offset'
    rw [hlies.positionAt_eq, hlies'.positionAt_eq] at h
    have htext : front ++ back = front' ++ back' := hlies.text_eq.symm.trans hlies'.text_eq
    have hsize : front.byteSize = front'.byteSize := by
      rcases lt_trichotomy front.byteSize front'.byteSize with hlt | heq | hlt
      · exact absurd (congrArg Position.key h) (key_lt_key htext hlt).ne
      · exact heq
      · exact absurd (congrArg Position.key h) (key_lt_key htext.symm hlt).ne'
    have hsplit := (liesAt_byteSize front back).splitAtByte_eq
    have hsplit' := (liesAt_byteSize front' back').splitAtByte_eq
    rw [hlies.splitAtByte_eq, hlies'.splitAtByte_eq, ← hsplit, ← hsplit', htext, hsize]
  · intro h
    rw [positionAt, positionAt, h]

end Text

/-- The position grows from one character to the next, and is the same for all offsets inside a
character and for all from the end of the text on. Its line counts the newlines before it. -/
theorem positions_in_reading_order (t : Text) :
    StrictMonoOn (fun offset => (t.positionAt offset).key) {offset | t.IsBoundary offset} ∧
    (∀ (front : Text) (c : Char) (back : Text), t = front ++ c :: back → ∀ k < c.utf8Size,
      t.positionAt (front.byteSize + k) = t.positionAt front.byteSize) ∧
    (∀ offset, t.byteSize ≤ offset → t.positionAt offset = t.positionAt t.byteSize) ∧
    (∀ front back : Text, t = front ++ back →
      (t.positionAt front.byteSize).line = 1 + front.count '\n') ∧
    ∀ offset offset', t.positionAt offset = t.positionAt offset' ↔
      t.splitAtByte offset = t.splitAtByte offset' := by
  refine ⟨t.key_strictMonoOn, ?_, ?_, ?_, fun _ _ => Text.positionAt_eq_iff⟩
  · rintro front c back rfl k hk
    rw [(Text.liesAt_inside front back hk).positionAt_eq, (Text.liesAt_byteSize ..).positionAt_eq]
  · intro offset h
    rw [(Text.liesAt_end h).positionAt_eq, (Text.liesAt_end le_rfl).positionAt_eq]
  · rintro front back rfl
    rw [(Text.liesAt_byteSize ..).positionAt_eq]
    exact Nat.add_comm ..

theorem positions_in_reading_order_umlaut : ∃ t : Text, t = "ü\nb" ∧
    (t.IsBoundary 2 ∧ t.IsBoundary 3 ∧ (t.positionAt 2).key < (t.positionAt 3).key) ∧
    (1 < 'ü'.utf8Size ∧ t.positionAt 1 = t.positionAt 0) ∧
    (t.byteSize ≤ 9 ∧ t.positionAt 9 = t.positionAt 4) ∧ (t.positionAt 3).line = 2 := by
  obtain ⟨hincreasing, hinside, hend, hline, -⟩ := positions_in_reading_order "ü\nb"
  have hsecond : Text.IsBoundary "ü\nb" 2 := ⟨"ü", "\nb", rfl, rfl⟩
  have hthird : Text.IsBoundary "ü\nb" 3 := ⟨"ü\n", "b", rfl, rfl⟩
  have hwide : 1 < 'ü'.utf8Size := by decide
  have hpast : Text.byteSize "ü\nb" ≤ 9 := by decide
  exact ⟨_, rfl, ⟨hsecond, hthird, hincreasing hsecond hthird (by decide)⟩,
    ⟨hwide, hinside [] 'ü' "\nb" rfl 1 hwide⟩, ⟨hpast, hend 9 hpast⟩, hline "ü\n" "b" rfl⟩

end SearchQuery
