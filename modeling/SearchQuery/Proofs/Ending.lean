import Mathlib.Algebra.Ring.Parity
import Mathlib.Data.List.Induction
import SearchQuery.Proofs.Beginning

/-! # Queries that end with a lone backslash -/

namespace SearchQuery

/-! ## Spellings that end with a backslash -/

theorem dangling_blank {b : Text} (h : Blank b) : dangling b = false := by
  rw [← Bool.not_eq_true]
  exact fun hd => absurd (h _ (backslash_mem_of_dangling hd)) (by decide)

theorem Mark.dangling_text (mark : Mark) : dangling mark.text = false := by
  cases mark <;> rfl

theorem SpellsValue.closed_iff {q : Query} {s : Text} (h : SpellsValue q s) :
    Closed [q] ↔ dangling s = false := by
  cases h with
  | @range left right lower upper b₁ b₂ b₃ b₄ _ hlower _ hupper h₁ h₂ _ h₃ _ h₄ =>
    have hopening : dangling left.opening = false := by cases left <;> rfl
    have hclosing : dangling right.closing = false := by cases right <;> rfl
    rw [dangling_append hopening, dangling_append (dangling_blank h₁), dangling_append hlower,
      dangling_append (dangling_blank h₂), dangling_append (s := "TO") rfl,
      dangling_append (dangling_blank h₃), dangling_append hupper,
      dangling_append (dangling_blank h₄)]
    exact iff_of_true (closed_of_lastWord_none rfl) hclosing
  | @comparison operand raw =>
    have hoperand : dangling operand.text = false := by cases operand <;> rfl
    rw [dangling_append hoperand]
    exact closed_iff_of_lastWord rfl
  | regex hbody =>
    rw [dangling_append (s := "/") rfl, dangling_append hbody.2]
    exact iff_of_true (closed_of_lastWord_none rfl) rfl
  | word => exact closed_iff_of_lastWord rfl

theorem Spells.closed_iff {items : List Query} {s : Text} (h : Spells items s) :
    Closed items ↔ dangling s = false := by
  induction h with
  | word => exact closed_iff_of_lastWord rfl
  | parenthesized _ hclosed _ h₁ h₂ ih =>
    rw [dangling_append (s := "(") rfl, dangling_append (dangling_blank h₁),
      dangling_append (ih.mp hclosed), dangling_append (dangling_blank h₂)]
    exact iff_of_true (closed_of_lastWord_none rfl) rfl
  | negated _ hb _ ih =>
    rw [dangling_append (Mark.dangling_text .not), dangling_append (dangling_blank hb), ← ih]
    exact closed_congr rfl
  | @signed mark _ _ _ _ ih =>
    rw [dangling_append mark.dangling_text, ← ih]
    exact closed_congr rfl
  | field _ hname _ hvalue =>
    rw [dangling_append hname, dangling_append (s := ":") rfl, ← hvalue.closed_iff]
    exact closed_congr rfl
  | fieldParenthesized _ hname _ _ ih =>
    rw [dangling_append hname, dangling_append (s := ":") rfl, ← ih]
    exact closed_congr rfl
  | either _ hclosed _ hb _ _ _ _ ih ih' =>
    rw [closed_cons_cons, closed_cons_cons, ih', dangling_append (ih.mp hclosed),
      dangling_append (dangling_blank hb)]
  | @operator op _ _ _ _ _ _ _ _ _ hclosed _ h₁ _ h₂ _ _ ih ih' =>
    have hop : dangling op.text = false := by cases op <;> rfl
    rw [closed_cons_cons, closed_cons_cons, ih', dangling_append (ih.mp hclosed),
      dangling_append (dangling_blank h₁), dangling_append hop,
      dangling_append (dangling_blank h₂)]

theorem Spells.dangling_eq {items : List Query} {s s' : Text} (h : Spells items s)
    (h' : Spells items s') : dangling s = dangling s' := by
  have hiff : dangling s = false ↔ dangling s' = false := h.closed_iff.symm.trans h'.closed_iff
  cases hs : dangling s with
  | false => exact (hiff.mp hs).symm
  | true =>
    cases hs' : dangling s' with
    | false => simp [hiff.mpr hs'] at hs
    | true => rfl

theorem Spells.dangling_around {items : List Query} {b s b' : Text} (h : Spells items s)
    (hb : Blank b) (hb' : Blank b') (hend : Closed items ∨ b' = []) :
    dangling (b ++ (s ++ b')) = dangling s := by
  rw [dangling_append (dangling_blank hb)]
  rcases hend with hclosed | rfl
  · have hs := h.closed_iff.mp hclosed
    rw [dangling_append hs, dangling_blank hb', hs]
  · rw [List.append_nil]

/-! ## Backslashes at the end -/

def trailingBackslashes (t : Text) : Nat := (t.reverse.takeWhile (· = '\\')).length

theorem trailingBackslashes_snoc (t : Text) (x : Char) :
    trailingBackslashes (t ++ [x]) = if x = '\\' then trailingBackslashes t + 1 else 0 := by
  unfold trailingBackslashes
  rw [List.reverse_append, List.reverse_singleton, List.singleton_append, List.takeWhile_cons]
  by_cases hx : x = '\\'
  · simp [hx]
  · simp [hx]

/-- Of two backslashes the first takes the second along, so the last one is left over if their number
is odd. -/
theorem dangling_iff_odd (t : Text) : dangling t ↔ Odd (trailingBackslashes t) := by
  induction t using List.reverseRecOn with
  | nil => simp [dangling, trailingBackslashes]
  | append_singleton t x ih =>
    rw [trailingBackslashes_snoc]
    by_cases hdangling : dangling t
    · rw [dangling_snoc hdangling]
      by_cases hx : x = '\\'
      · simp [hx, Nat.odd_add_one, ih.mp hdangling]
      · simp [hx]
    · rw [dangling_append (by simpa using hdangling)]
      by_cases hx : x = '\\'
      · rw [if_pos hx, Nat.odd_add_one, ← ih]
        simp [hx, dangling, hdangling]
      · rw [if_neg hx, dangling_cons hx]
        simp [dangling]

theorem dangling_eq_false_iff (t : Text) : dangling t = false ↔ Even (trailingBackslashes t) := by
  rw [← Bool.not_eq_true, dangling_iff_odd, Nat.not_odd_iff_even]

/-! ## Parentheses around a query -/

theorem blank_eq_nil_of_trimmed {b t : Text} (hb : Blank b) (h : Trimmed (b ++ t)) : b = [] := by
  cases b with
  | nil => rfl
  | cons x b =>
    have hx : isSpace x := hb x (by simp)
    have hx' : isSpace x = false := h x rfl
    simp [hx'] at hx

theorem blank_eq_nil_of_last {b s t : Text} {x : Char} (hb : Blank b) (hx : isSpace x = false)
    (h : s ++ b = t ++ [x]) : b = [] := by
  induction b using List.reverseRecOn with
  | nil => rfl
  | append_singleton b y _ =>
    rw [← List.append_assoc] at h
    obtain ⟨-, rfl⟩ := List.append_singleton_inj.mp h
    have hy : isSpace y := hb y (by simp)
    simp [hx] at hy

/-- No blanks stand around a text in parentheses, so the parentheses are those of the query. -/
theorem exists_inside {t : Text} {q : Query}
    (h : parse ("(" ++ (t ++ ")")) = .ok (.parenthesized q)) : ∃ items b s b',
      Query.ofItems? items = some q ∧ Spells items s ∧ Blank b ∧ Blank b' ∧ Closed items ∧
      t = b ++ (s ++ b') := by
  obtain ⟨items, b, s, b', hq, hspells, hb, hb', -, heq⟩ := parse_eq_ok_iff.mp h
  have hitems : items = [.parenthesized q] := by
    match items, hq with
    | [_], hq => exact congrArg (· :: []) (Option.some.inj hq)
  subst hitems
  have htrimmed : Trimmed (b ++ (s ++ b')) := by
    rw [← heq]
    exact (Starts.trimmed ⟨'(', _, rfl, rfl⟩)
  obtain rfl := blank_eq_nil_of_trimmed hb htrimmed
  obtain rfl : b' = [] := by
    refine blank_eq_nil_of_last (x := ')') (s := s) (t := "(" ++ t) hb' (by decide) ?_
    simpa using heq.symm
  cases hspells with
  | @parenthesized items _ s₀ b₁ b₂ hitems hclosed hinner h₁ h₂ =>
    refine ⟨items, b₁, s₀, b₂, hinner, hitems, h₁, h₂, hclosed, ?_⟩
    have hinside : t ++ ")" = b₁ ++ (s₀ ++ b₂) ++ ")" := by simpa using heq
    exact List.append_cancel_right hinside

/-- A text in parentheses is a query in parentheses exactly if the text is that query and does not end
with a backslash that would take the closing parenthesis along. -/
theorem parse_parenthesized_iff {t : Text} {q : Query} :
    parse ("(" ++ (t ++ ")")) = .ok (.parenthesized q) ↔
      parse t = .ok q ∧ Even (trailingBackslashes t) := by
  rw [← dangling_eq_false_iff]
  constructor
  · intro h
    obtain ⟨items, b, s, b', hq, hspells, hb, hb', hclosed, rfl⟩ := exists_inside h
    refine ⟨parse_eq_ok_iff.mpr ⟨items, b, s, b', hq, hspells, hb, hb', .inl hclosed, rfl⟩, ?_⟩
    rw [hspells.dangling_around hb hb' (.inl hclosed)]
    exact hspells.closed_iff.mp hclosed
  · rintro ⟨h, hdangling⟩
    obtain ⟨items, b, s, b', hq, hspells, hb, hb', hend, rfl⟩ := parse_eq_ok_iff.mp h
    rw [hspells.dangling_around hb hb' hend] at hdangling
    have hclosed : Closed items := hspells.closed_iff.mpr hdangling
    refine parse_eq_ok_iff.mpr ⟨[.parenthesized q], [], _, [], rfl,
      .parenthesized hspells hclosed hq hb hb', blank_nil, blank_nil, .inr rfl, ?_⟩
    simp

end SearchQuery
