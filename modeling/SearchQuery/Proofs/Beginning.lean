import SearchQuery.Proofs.Unambiguous

/-! # Beginnings

Whatever stands open at the end of such a text can be brought to an end.
-/

namespace SearchQuery

/-! ## Backslashes at the end -/

/-- What a text lacks if it ends with a backslash of its own: a character for the backslash. -/
def completion (s : Text) : Text := if dangling s then "x" else ""

theorem completion_of_closed {s : Text} (h : dangling s = false) : completion s = [] := by
  simp [completion, h]

theorem completion_of_dangling {s : Text} (h : dangling s) : completion s = ['x'] := by
  simp [completion, h]

theorem backslash_mem_of_dangling {s : Text} (h : dangling s) : '\\' ∈ s := by
  fun_induction dangling s with
  | case1 => simp at h
  | case2 => simp
  | case3 x rest ih => simp
  | case4 x rest _ _ ih => exact List.mem_cons_of_mem x (ih h)

theorem dangling_snoc {s : Text} (h : dangling s) (x : Char) : dangling (s ++ [x]) = false := by
  fun_induction dangling s with
  | case1 => simp at h
  | case2 => rfl
  | case3 y rest ih => simpa [dangling] using ih h
  | case4 y rest hback hesc ih =>
    have hy : y ≠ '\\' := by
      rintro rfl
      cases rest with
      | nil => exact hback rfl rfl
      | cons z rest => exact hesc _ _ rfl rfl
    rw [List.cons_append, dangling_cons hy, ih h]

theorem escapedRun_snoc (inClass : Char → Bool) {s : Text} (h : s.escapedRun inClass = s)
    (hd : dangling s) (x : Char) : (s ++ [x]).escapedRun inClass = s ++ [x] := by
  fun_induction Text.escapedRun inClass s with
  | case1 => simp [dangling] at hd
  | case2 y s ih =>
    simp only [List.cons.injEq, true_and] at h
    rw [List.cons_append, List.cons_append, Text.escapedRun, ih h (by simpa [dangling] using hd)]
  | case3 y s hesc hy ih =>
    simp only [List.cons.injEq, true_and] at h
    by_cases hslash : y = '\\'
    · obtain rfl : s = [] := by
        cases s with
        | nil => rfl
        | cons z s => exact absurd rfl (hesc _ _ hslash)
      subst hslash
      rfl
    · rw [dangling_cons hslash] at hd
      rw [List.cons_append, Text.escapedRun_cons inClass hslash, if_pos hy, ih h hd]
  | case4 y s hesc hy => simp at h

theorem dangling_completed (s : Text) : dangling (s ++ completion s) = false := by
  by_cases h : dangling s
  · rw [completion_of_dangling h, dangling_snoc h]
  · rw [Bool.not_eq_true] at h
    rw [completion_of_closed h, List.append_nil, h]

theorem escapedRun_completed (inClass : Char → Bool) {s : Text} (h : s.escapedRun inClass = s) :
    (s ++ completion s).escapedRun inClass = s ++ completion s := by
  by_cases hd : dangling s
  · rw [completion_of_dangling hd, escapedRun_snoc inClass h hd]
  · rw [Bool.not_eq_true] at hd
    rw [completion_of_closed hd, List.append_nil, h]

/-- A token without a backslash stands in front of the longer word only if it stands in front of the
word, and what comes after it starts alike. -/
theorem exists_of_snoc {raw token rest' : Text} {x : Char} (htoken : '\\' ∉ token)
    (hd : dangling raw) (h : raw ++ [x] = token ++ rest') :
    ∃ rest : Text, raw = token ++ rest ∧ rest'.head? = rest.head? := by
  have hback := backslash_mem_of_dangling hd
  rcases List.append_eq_append_iff.mp h with ⟨r, htoken', -⟩ | ⟨r, rfl, hr⟩
  · exact absurd (by simp [htoken', hback]) htoken
  · cases r with
    | nil => exact absurd (by simpa using hback) htoken
    | cons y r => exact ⟨y :: r, rfl, by rw [hr]; rfl⟩

theorem head?_snoc {raw : Text} (h : raw ≠ []) (x : Char) : (raw ++ [x]).head? = raw.head? := by
  obtain ⟨y, raw, rfl⟩ := List.exists_cons_of_ne_nil h
  rfl

theorem IsTerm.snoc {raw : Text} (h : IsTerm raw) (hd : dangling raw) (x : Char) :
    IsTerm (raw ++ [x]) :=
  ⟨by rw [head?_snoc h.ne_nil]; exact h.1, escapedRun_snoc isTermChar h.2 hd x⟩

theorem IsWord.snoc {raw : Text} (h : IsWord raw) (hd : dangling raw) (x : Char) :
    IsWord (raw ++ [x]) := by
  rcases h with ⟨body, tail, rfl, hbody, htail⟩ | h
  · rw [dangling_cons (by decide), dangling_append hbody.2, dangling_cons (by decide)] at hd
    exact .inl ⟨body, tail ++ [x], by simp, hbody, escapedRun_snoc isTermChar htail hd x⟩
  · exact .inr (h.snoc hd x)

theorem IsWord.completed {raw : Text} (h : IsWord raw) : IsWord (raw ++ completion raw) := by
  by_cases hd : dangling raw
  · rw [completion_of_dangling hd]
    exact h.snoc hd 'x'
  · rwa [completion_of_closed (by simpa using hd), List.append_nil]

theorem SignFree.snoc {raw : Text} (h : SignFree raw) (hd : dangling raw) (x : Char) :
    SignFree (raw ++ [x]) := by
  intro mark hmark rest' heq
  have htoken : '\\' ∉ mark.text := by cases mark <;> decide
  obtain ⟨rest, hraw, hhead⟩ := exists_of_snoc htoken hd heq
  rw [Barren, hhead]
  exact h mark hmark rest hraw

theorem ComparisonFree.snoc {raw : Text} (h : ComparisonFree raw) (hd : dangling raw) (x : Char) :
    ComparisonFree (raw ++ [x]) := by
  intro s rest' hsplit
  obtain ⟨operand, rfl, heq, hcomparable⟩ := Lexeme.split_comparison_iff.mp hsplit
  have htoken : '\\' ∉ operand.text := by cases operand <;> decide
  obtain ⟨rest, hraw, hhead⟩ := exists_of_snoc htoken hd heq
  rw [Lexeme.Comparable, hhead] at hcomparable
  rw [Barren, hhead]
  exact h _ _ (Lexeme.split_comparison_iff.mpr ⟨operand, rfl, hraw, hcomparable⟩)

/-! ## Words -/

/-- The text starts with no character of a sign or of a comparison. -/
def Tame (raw : Text) : Prop := ∀ x ∈ raw.head?, x ∉ ['+', '-', '<', '>', '=']

theorem Tame.signFree {raw : Text} (h : Tame raw) : SignFree raw := by
  rintro mark hmark rest rfl
  cases mark with
  | not => exact absurd rfl hmark
  | plus => exact absurd (h '+' rfl) (by decide)
  | minus => exact absurd (h '-' rfl) (by decide)

theorem Tame.comparisonFree {raw : Text} (h : Tame raw) : ComparisonFree raw := by
  intro s rest hsplit
  obtain ⟨operand, -, rfl, -⟩ := Lexeme.split_comparison_iff.mp hsplit
  cases operand with
  | greater | greaterEqual => exact absurd (h '>' rfl) (by decide)
  | less | lessEqual => exact absurd (h '<' rfl) (by decide)

theorem Tame.comparable {raw : Text} (h : Tame raw) (operand : Comparison) :
    Lexeme.Comparable operand raw :=
  fun _ heq => absurd (h '=' heq) (by decide)

/-- Nothing of a word is there yet, or a phrase that does not end. -/
def WordOpens (s : Text) : Prop :=
  s = [] ∨ ∃ rest : Text, s = '"' :: rest ∧ rest.delimited '"' = none

theorem isBody_completed {close : Char} {s : Text} (h : s.delimited close = none) :
    IsBody close (s ++ completion s) :=
  ⟨escapedRun_completed _ (Text.escapedRun_of_not_delimited h), dangling_completed s⟩

theorem isTerm_a : IsTerm "a" := ⟨⟨'a', rfl, by decide⟩, by decide⟩

theorem WordOpens.completes {s : Text} (h : WordOpens s) :
    ∃ u, IsWord (s ++ u) ∧ dangling (s ++ u) = false ∧ Tame (s ++ u) := by
  rcases h with rfl | ⟨rest, rfl, hnone⟩
  · exact ⟨"a", .inr isTerm_a, by decide, by simp [Tame]⟩
  · have hbody := isBody_completed hnone
    refine ⟨completion rest ++ ['"'], .inl ⟨rest ++ completion rest, [], by simp, hbody, rfl⟩, ?_,
      by simp [Tame]⟩
    rw [List.cons_append, ← List.append_assoc, dangling_cons (by decide), dangling_append hbody.2]
    rfl

/-! ## Conditions and values -/

/-- A condition can begin with the text. -/
def Begins (s : Text) : Prop := ∃ u q, Spells [q] (s ++ u) ∧ Closed [q]

/-- A condition in parentheses can begin with the text. -/
def BeginsParented (s : Text) : Prop := ∃ u inner, Spells [.parenthesized inner] (s ++ u)

/-- The value of a field can begin with the text. -/
def BeginsValue (s : Text) : Prop :=
  BeginsParented s ∨ ∃ u q, SpellsValue q (s ++ u) ∧ Closed [q]

theorem closed_of_lastWord_none {q : Query} (h : q.lastWord? = none) : Closed [q] := by
  simp [closed_singleton, h]

theorem closed_iff_of_lastWord {q : Query} {raw : Text} (h : q.lastWord? = some raw) :
    Closed [q] ↔ dangling raw = false := by
  simp [closed_singleton, h]

theorem closed_congr {q q' : Query} (h : q.lastWord? = q'.lastWord?) : Closed [q] ↔ Closed [q'] := by
  rw [closed_singleton, h, closed_singleton]

theorem Closed.of_lastWord {q q' : Query} (h : Closed [q]) (heq : q.lastWord? = q'.lastWord?) :
    Closed [q'] :=
  (closed_congr heq).mp h

theorem closed_term {raw : Text} (h : dangling raw = false) : Closed [.term raw] :=
  (closed_iff_of_lastWord rfl).mpr h

theorem Begins.of_append {s s' : Text} (h : Begins (s ++ s')) : Begins s := by
  obtain ⟨u, q, hspells, hclosed⟩ := h
  exact ⟨s' ++ u, q, by rwa [← List.append_assoc], hclosed⟩

theorem begins_of_wordOpens {s : Text} (h : WordOpens s) : Begins s := by
  obtain ⟨u, hword, hdangling, htame⟩ := h.completes
  exact ⟨u, _, .word hword htame.signFree, closed_term hdangling⟩

theorem begins_nil : Begins [] := begins_of_wordOpens (.inl rfl)

theorem begins_word {raw : Text} (hraw : IsWord raw) (hfree : SignFree raw) : Begins raw := by
  by_cases hd : dangling raw
  · exact ⟨"x", _, .word (hraw.snoc hd 'x') (hfree.snoc hd 'x'), closed_term (dangling_snoc hd 'x')⟩
  · rw [Bool.not_eq_true] at hd
    refine ⟨[], .term raw, ?_, closed_term hd⟩
    rw [List.append_nil]
    exact .word hraw hfree

theorem BeginsParented.begins {s : Text} (h : BeginsParented s) : Begins s := by
  obtain ⟨u, inner, hspells⟩ := h
  exact ⟨u, _, hspells, closed_of_lastWord_none rfl⟩

theorem Begins.negated {s b : Text} (h : Begins s) (hb : Blank b) (hne : b ≠ []) :
    Begins (Mark.not.text ++ (b ++ s)) := by
  obtain ⟨u, q, hspells, hclosed⟩ := h
  exact ⟨u, .marked .not q, by simpa using hspells.negated hb hne, hclosed.of_lastWord rfl⟩

theorem begins_not : Begins Mark.not.text := (begins_nil.negated blank_space (by simp)).of_append

theorem Begins.signed {mark : Mark} {s : Text} (hmark : mark ≠ .not) (h : Begins s) :
    Begins (mark.text ++ s) := by
  obtain ⟨u, q, hspells, hclosed⟩ := h
  exact ⟨u, .marked mark q, by simpa using hspells.signed hmark, hclosed.of_lastWord rfl⟩

theorem BeginsValue.field {name s : Text} (hname : IsTerm name) (hclosed : dangling name = false)
    (hfree : SignFree name) (h : BeginsValue s) : Begins (name ++ (":" ++ s)) := by
  rcases h with ⟨u, inner, hspells⟩ | ⟨u, q, hspells, hq⟩
  · exact ⟨u, .field name (.parenthesized inner),
      by simpa using hspells.fieldParenthesized hname hclosed hfree, closed_of_lastWord_none rfl⟩
  · exact ⟨u, .field name q, by simpa using Spells.field hname hclosed hfree hspells,
      hq.of_lastWord rfl⟩

theorem beginsValue_of_wordOpens {s : Text} (h : WordOpens s) : BeginsValue s := by
  obtain ⟨u, hword, hdangling, htame⟩ := h.completes
  exact .inr ⟨u, _, .word hword htame.comparisonFree, closed_term hdangling⟩

theorem beginsValue_nil : BeginsValue [] := beginsValue_of_wordOpens (.inl rfl)

theorem beginsValue_comparison {s : Text} (operand : Comparison) (h : WordOpens s) :
    BeginsValue (operand.text ++ s) := by
  obtain ⟨u, hword, hdangling, htame⟩ := h.completes
  refine .inr ⟨u, .comparison operand (.term (s ++ u)), ?_, (closed_term hdangling).of_lastWord rfl⟩
  rw [List.append_assoc]
  exact .comparison hword (htame.comparable operand)

theorem beginsValue_regex {s u : Text} (h : IsBody '/' (s ++ u)) : BeginsValue ("/" ++ s) := by
  refine .inr ⟨u ++ "/", .regex (s ++ u), ?_, closed_of_lastWord_none rfl⟩
  simpa using SpellsValue.regex h

/-! ### Ranges -/

section

variable {left : Edge} {lower b₁ b₂ b₃ : Text} (h₁ : Blank b₁)

include h₁

theorem beginsValue_lower {s u : Text} (hword : IsWord (s ++ u))
    (hdangling : dangling (s ++ u) = false) : BeginsValue (left.opening ++ (b₁ ++ s)) := by
  refine .inr ⟨u ++ " TO a]", .range left (s ++ u) "a" .inclusive, ?_, closed_of_lastWord_none rfl⟩
  have hspells : SpellsValue (.range left (s ++ u) "a" .inclusive) _ := .range hword hdangling
    (.inr isTerm_a) rfl h₁ blank_space (by simp) blank_space (by simp) blank_nil
  simpa [Edge.closing] using hspells

variable (hlower : IsWord lower) (hdangling : dangling lower = false) (h₂ : Blank b₂)
  (hne₂ : b₂ ≠ [])

include hlower hdangling h₂ hne₂

theorem beginsValue_joiner {s : Text} (hs : s <+: "TO") :
    BeginsValue (left.opening ++ (b₁ ++ (lower ++ (b₂ ++ s)))) := by
  obtain ⟨u, hu⟩ := hs
  refine .inr ⟨u ++ " a]", .range left lower "a" .inclusive, ?_, closed_of_lastWord_none rfl⟩
  have hspells : SpellsValue (.range left lower "a" .inclusive) _ := .range hlower hdangling
    (.inr isTerm_a) rfl h₁ h₂ hne₂ blank_space (by simp) blank_nil
  rw [← hu] at hspells
  simpa [Edge.closing] using hspells

variable (h₃ : Blank b₃) (hne₃ : b₃ ≠ [])

include h₃ hne₃

theorem beginsValue_upper {s u b₄ : Text} (hword : IsWord (s ++ u))
    (hdangling' : dangling (s ++ u) = false) (h₄ : Blank b₄) (hu : b₄ ≠ [] → u = []) :
    BeginsValue (left.opening ++ (b₁ ++ (lower ++ (b₂ ++ ("TO" ++ (b₃ ++ (s ++ b₄))))))) := by
  have hspells : SpellsValue (.range left lower (s ++ u) .inclusive) _ := .range hlower hdangling
    hword hdangling' h₁ h₂ hne₂ h₃ hne₃ h₄
  have htext : s ++ (u ++ (b₄ ++ "]")) = s ++ (b₄ ++ (u ++ "]")) := by
    by_cases hb : b₄ = []
    · simp [hb]
    · simp [hu hb]
  refine .inr ⟨u ++ "]", .range left lower (s ++ u) .inclusive, ?_, closed_of_lastWord_none rfl⟩
  simp only [Edge.closing, List.append_assoc] at hspells htext ⊢
  rwa [htext] at hspells

end

/-! ## Spellings brought to an end -/

/-- The items can stand after blanks alone: they are not read as the rest of an operator. -/
def AfterBlank : List Query → Prop
  | [] => False
  | next :: later => (∀ value, next ≠ .marked .not value) ∧ (next.isKeyword → later = [])

theorem Spells.length_pos {items : List Query} {s : Text} (h : Spells items s) :
    0 < items.length := by
  cases h <;> simp

theorem dangling_of_not_closed {q : Query} {raw : Text} (h : ¬ Closed [q])
    (hlast : q.lastWord? = some raw) : dangling raw := by
  simpa [closed_iff_of_lastWord hlast] using h

theorem SpellsValue.snoc {q : Query} {s : Text} (h : SpellsValue q s) (hopen : ¬ Closed [q])
    (x : Char) : ∃ q', SpellsValue q' (s ++ [x]) ∧ Closed [q'] := by
  cases h with
  | range | regex => exact absurd (closed_of_lastWord_none rfl) hopen
  | @comparison operand raw hraw hcomparable =>
    have hd : dangling raw := dangling_of_not_closed hopen rfl
    refine ⟨.comparison operand (.term (raw ++ [x])), ?_,
      (closed_term (dangling_snoc hd x)).of_lastWord rfl⟩
    rw [List.append_assoc]
    refine .comparison (hraw.snoc hd x) ?_
    rwa [Lexeme.Comparable, head?_snoc hraw.ne_nil]
  | word hraw hfree =>
    have hd : dangling s := dangling_of_not_closed hopen rfl
    exact ⟨_, .word (hraw.snoc hd x) (hfree.snoc hd x), closed_term (dangling_snoc hd x)⟩

theorem Spells.snoc {items : List Query} {s : Text} (h : Spells items s) (hopen : ¬ Closed items)
    (x : Char) : ∃ items', Spells items' (s ++ [x]) ∧ Closed items' ∧
      items'.length = items.length ∧ (AfterBlank items → AfterBlank items') := by
  induction h with
  | @word raw hraw hfree =>
    have hd : dangling raw := dangling_of_not_closed hopen rfl
    exact ⟨[.term _], .word (hraw.snoc hd x) (hfree.snoc hd x), closed_term (dangling_snoc hd x), rfl,
      fun _ => ⟨by simp, by simp⟩⟩
  | parenthesized | fieldParenthesized => exact absurd (closed_of_lastWord_none rfl) hopen
  | negated hvalue hb hne ih =>
    obtain ⟨items', hspells, hclosed, hlength, -⟩ := ih fun h => hopen (h.of_lastWord rfl)
    obtain ⟨value', rfl⟩ := List.length_eq_one_iff.mp hlength
    refine ⟨[.marked .not value'], ?_, hclosed.of_lastWord rfl, rfl, ?_⟩
    · simpa using hspells.negated hb hne
    · exact fun hafter => absurd rfl (hafter.1 _)
  | @signed mark value s hmark hvalue ih =>
    obtain ⟨items', hspells, hclosed, hlength, -⟩ := ih fun h => hopen (h.of_lastWord rfl)
    obtain ⟨value', rfl⟩ := List.length_eq_one_iff.mp hlength
    refine ⟨[.marked mark value'], ?_, hclosed.of_lastWord rfl, rfl, ?_⟩
    · simpa using hspells.signed hmark
    · exact fun _ => ⟨by simp [hmark], by simp⟩
  | @field name value s hname hclosed hfree hvalue =>
    obtain ⟨value', hspells, hclosed'⟩ := hvalue.snoc (fun h => hopen (h.of_lastWord rfl)) x
    refine ⟨[.field name value'], ?_, hclosed'.of_lastWord rfl, rfl, fun _ => ⟨by simp, by simp⟩⟩
    simpa using Spells.field hname hclosed hfree hspells
  | @either first next later s b v hfirst hclosed hnot hb hne hmark hkeyword hlater _ ih =>
    rw [closed_cons_cons, closed_cons_cons] at hopen
    obtain ⟨items', hspells, hclosed', hlength, hafter⟩ := ih hopen
    obtain ⟨next', later', rfl⟩ := List.exists_cons_of_length_pos hspells.length_pos
    obtain ⟨hmark', hkeyword'⟩ := hafter ⟨hmark, hkeyword⟩
    refine ⟨first :: .operator .either :: next' :: later', ?_, ?_, by simpa using hlength, ?_⟩
    · simpa using Spells.either hfirst hclosed hnot hb hne hmark' hkeyword' hspells
    · rwa [closed_cons_cons, closed_cons_cons]
    · exact fun hfirst' => ⟨hfirst'.1, fun hk => absurd (hfirst'.2 hk) (by simp)⟩
  | @operator op first next later s b₁ b₂ v hop hfirst hclosed hnot h₁ hglued h₂ hglued' hlater
      _ ih =>
    rw [closed_cons_cons, closed_cons_cons] at hopen
    obtain ⟨items', hspells, hclosed', hlength, -⟩ := ih hopen
    obtain ⟨next', later', rfl⟩ := List.exists_cons_of_length_pos hspells.length_pos
    have hend : b₂ = [] → atWordEnd (v ++ [x]) := by
      rw [hlater.starts.atWordEnd_append]
      exact hglued'
    refine ⟨first :: .operator op :: next' :: later', ?_, ?_, by simpa using hlength, ?_⟩
    · simpa using Spells.operator hop hfirst hclosed hnot h₁ hglued h₂ hend hspells
    · rwa [closed_cons_cons, closed_cons_cons]
    · exact fun hfirst' => ⟨hfirst'.1, fun hk => absurd (hfirst'.2 hk) (by simp)⟩

theorem Spells.completed {items : List Query} {s : Text} (h : Spells items s) :
    ∃ u items', Spells items' (s ++ u) ∧ Closed items' ∧
      (AfterBlank items → AfterBlank items') := by
  by_cases hclosed : Closed items
  · exact ⟨[], items, by rwa [List.append_nil], hclosed, id⟩
  · obtain ⟨items', hspells, hclosed', -, hafter⟩ := h.snoc hclosed 'x'
    exact ⟨"x", items', hspells, hclosed', hafter⟩

/-- A bare `NOT` at the end of a condition negates a condition that comes after it. -/
theorem Spells.negate {q value : Query} {s b w : Text} (h : Spells [q] s) (hends : q.endsNot)
    (hb : Blank b) (hne : b ≠ []) (hvalue : Spells [value] w) :
    ∃ q', Spells [q'] (s ++ (b ++ w)) ∧ q'.lastWord? = value.lastWord? ∧
      (AfterBlank [q] → q.isKeyword = false → AfterBlank [q']) := by
  generalize hitems : [q] = items at h
  induction h generalizing q with
  | @word raw hraw hfree =>
    obtain rfl := List.singleton_inj.mp hitems
    obtain rfl : raw = Mark.not.text := of_decide_eq_true hends
    exact ⟨.marked .not value, hvalue.negated hb hne, rfl, fun _ hk => absurd hk (by decide)⟩
  | @negated value' s b' hvalue' hb' hne' ih =>
    obtain rfl := List.singleton_inj.mp hitems
    obtain ⟨q', hspells, hlast, -⟩ := ih (q := value') hends rfl
    refine ⟨.marked .not q', ?_, hlast, fun hafter => absurd rfl (hafter.1 _)⟩
    simpa using hspells.negated hb' hne'
  | @signed mark value' s hmark hvalue' ih =>
    obtain rfl := List.singleton_inj.mp hitems
    obtain ⟨q', hspells, hlast, -⟩ := ih (q := value') hends rfl
    refine ⟨.marked mark q', ?_, hlast, fun _ _ => ⟨by simp [hmark], by simp⟩⟩
    simpa using hspells.signed hmark
  | parenthesized | field | fieldParenthesized =>
    obtain rfl := List.singleton_inj.mp hitems
    simp [Query.endsNot] at hends
  | either | operator => simp at hitems

/-! ## Lists -/

/-- A list can begin with the text, and its items can be chosen to have the property. -/
def BeginsList (P : List Query → Prop) (s : Text) : Prop :=
  ∃ u items w b, s ++ u = w ++ b ∧ Spells items w ∧ Closed items ∧ Blank b ∧ P items

/-- Blanks alone can stand before the items if they can before the first condition. -/
def Keeps (first : Query) (items : List Query) : Prop :=
  AfterBlank [first] → first.isKeyword = false → AfterBlank items

theorem keeps_cons (first : Query) (later : List Query) : Keeps first (first :: later) :=
  fun hafter hk => ⟨hafter.1, by simp [hk]⟩

theorem BeginsList.mono {P Q : List Query → Prop} {s : Text} (h : BeginsList P s)
    (hQ : ∀ items, P items → Q items) : BeginsList Q s := by
  obtain ⟨u, items, w, b, heq, hspells, hclosed, hb, hP⟩ := h
  exact ⟨u, items, w, b, heq, hspells, hclosed, hb, hQ items hP⟩

theorem Begins.list {s : Text} (h : Begins s) : BeginsList (fun _ => True) s := by
  obtain ⟨u, q, hspells, hclosed⟩ := h
  exact ⟨u, [q], s ++ u, [], by simp, hspells, hclosed, blank_nil, trivial⟩

theorem exists_ofItems {items : List Query} {s : Text} (h : Spells items s) :
    ∃ q, Query.ofItems? items = some q := by
  obtain ⟨first, later, rfl⟩ := List.exists_cons_of_length_pos h.length_pos
  cases later <;> exact ⟨_, rfl⟩

theorem BeginsList.parenthesized {P : List Query → Prop} {s b : Text} (hb : Blank b)
    (h : BeginsList P s) : BeginsParented ("(" ++ (b ++ s)) := by
  obtain ⟨u, items, w, b', heq, hspells, hclosed, hb', -⟩ := h
  obtain ⟨inner, hinner⟩ := exists_ofItems hspells
  refine ⟨u ++ ")", inner, ?_⟩
  have htext : ("(" ++ (b ++ s)) ++ (u ++ ")") = "(" ++ (b ++ (w ++ (b' ++ ")"))) := by
    simp only [List.append_assoc]
    rw [← List.append_assoc s, heq, List.append_assoc]
  rw [htext]
  exact .parenthesized hspells hclosed hinner hb hb'

theorem beginsParented_nil : BeginsParented [] := by
  obtain ⟨u, inner, hspells⟩ := begins_nil.list.parenthesized blank_nil
  exact ⟨"(" ++ u, inner, hspells⟩

/-- A text that a list can begin with can be completed to one that parses. -/
theorem BeginsList.parses {P : List Query → Prop} {s b : Text} (hb : Blank b)
    (h : BeginsList P s) : ∃ u q, parse (b ++ s ++ u) = .ok q := by
  obtain ⟨u, items, w, b', heq, hspells, hclosed, hb', -⟩ := h
  obtain ⟨q, hq⟩ := exists_ofItems hspells
  refine ⟨u, q, parse_eq_ok_iff.mpr ⟨items, b, w, b', hq, hspells, hb, hb', .inl hclosed, ?_⟩⟩
  rw [List.append_assoc, heq]

theorem beginsList_of_spells {items : List Query} {s b more : Text} (h : Spells items s)
    (hlast : ∀ last ∈ items.getLast?, ∀ word ∈ last.lastWord?, EndsWord word (b ++ more))
    (hb : Blank b) :
    BeginsList (fun items' => AfterBlank items → AfterBlank items') (s ++ b) := by
  by_cases hnil : b ++ more = []
  · obtain ⟨rfl, rfl⟩ := List.append_eq_nil_iff.mp hnil
    obtain ⟨u, items', hspells, hclosed, hafter⟩ := h.completed
    exact ⟨u, items', s ++ u, [], by simp, hspells, hclosed, blank_nil, hafter⟩
  · refine ⟨[], items, s, b, by simp, h, ?_, hb, id⟩
    exact fun last hmem word hword => (hlast last hmem word hword).closed hnil

/-! ### Behind a condition -/

/-- What can stand between a condition and a token that is tried for the next one. -/
inductive Onset : Text → Prop
  | blank {b : Text} (hb : Blank b) : Onset b
  | operator {op : Operator} {b₁ b₂ s : Text} (hop : op ≠ .either) (h₁ : Blank b₁) (h₂ : Blank b₂)
      (hend : atWordEnd (b₂ ++ s)) (hs : Begins s) : Onset (b₁ ++ (op.text ++ (b₂ ++ s)))
  | either {b s : Text} (hb : Blank b) (hne : b ≠ []) (hs : Begins s) : Onset (b ++ s)

theorem Spells.of_negated {value : Query} {t : Text} (h : Spells [.marked .not value] t) :
    ∃ b w, t = Operator.not.text ++ (b ++ w) ∧ Blank b ∧ b ≠ [] ∧ Spells [value] w := by
  cases h with
  | negated hvalue hb hne => exact ⟨_, _, rfl, hb, hne, hvalue⟩
  | signed hmark => exact absurd rfl hmark

theorem Query.lastWord?_of_endsNot {q : Query} (h : q.endsNot) : q.lastWord? ≠ none := by
  induction q using Query.endsNot.induct with
  | case1 raw => simp [Query.lastWord?]
  | case2 mark value ih => exact ih h
  | case3 q hterm hmarked =>
    cases q with
    | term raw => exact absurd rfl (hterm raw)
    | marked mark value => exact absurd rfl (hmarked mark value)
    | _ => simp [Query.endsNot] at h

namespace Scan

section

variable {first : Query} {s s' b x : Text} {op : Operator}

/-- A condition that ends with a bare `NOT` does not stand before an operator, as the operator would
be what is negated. -/
theorem Reading.endsNot_of_operator (h : Reading first s (b ++ (op.text ++ x)))
    (hop : op ≠ .either) (hb : Blank b) : first.endsNot = false := by
  rw [← Bool.not_eq_true]
  intro hends
  have hne : b ≠ [] := fun hnil => Query.lastWord?_of_endsNot hends (h.glued hop hnil)
  obtain ⟨⟨next, rest⟩, hnext⟩ := exists_condition ((Operator.isTerm hop).head?_append x)
  have hspace := orSpace_iff.mpr ⟨b, rfl, hb, hne, rfl, (Operator.starts hop x).trimmed⟩
  have hnone := h.last hends
  rw [continuation, Option.or_eq_none_iff] at hnone
  exact Option.eq_none_iff_forall_ne_some.mp hnone.2 _ (separated_iff.mpr ⟨_, hspace, hnext⟩)

theorem Reading.begins_operator {P : List Query → Prop} {b' : Text}
    (h : Reading first s (b ++ (op.text ++ x))) (hop : op ≠ .either) (hb : Blank b)
    (hb' : Blank b') (hend : atWordEnd (b' ++ s')) (hs' : BeginsList P s') :
    BeginsList (Keeps first) (s ++ (b ++ (op.text ++ (b' ++ s')))) := by
  obtain ⟨u, items, w, b₂, heq, hspells, hclosed, hb₂, -⟩ := hs'
  obtain ⟨next, later, rfl⟩ := List.exists_cons_of_length_pos hspells.length_pos
  -- If nothing of the next condition is there yet, a blank comes first.
  obtain ⟨b₁, v, hb₁, hglued, htext⟩ : ∃ b₁ v, Blank b₁ ∧ (b₁ = [] → atWordEnd w) ∧
      b' ++ (s' ++ v) = b₁ ++ (w ++ b₂) := by
    by_cases hnil : s' = []
    · refine ⟨b' ++ " ", " " ++ u, ?_, by simp, by simp [← heq, hnil]⟩
      exact List.forall_mem_append.mpr ⟨hb', blank_space⟩
    · refine ⟨b', u, hb', ?_, by rw [heq]⟩
      rintro rfl
      obtain ⟨y, s', rfl⟩ := List.exists_cons_of_ne_nil hnil
      obtain ⟨z, w, rfl, -⟩ := hspells.starts
      obtain rfl : y = z := (List.cons.inj heq).1
      exact hend
  have hfirst : Closed [first] := h.closed (by simp [(Operator.isTerm hop).ne_nil])
  refine ⟨v, first :: .operator op :: next :: later, s ++ (b ++ (op.text ++ (b₁ ++ w))), b₂, ?_,
    .operator hop h.spells hfirst (h.endsNot_of_operator hop hb) hb (h.glued hop) hb₁ hglued
      hspells, ?_, hb₂, keeps_cons first _⟩
  · simp [htext]
  · rwa [closed_cons_cons, closed_cons_cons]

theorem Reading.begins_either (h : Reading first s (b ++ x)) (hnot : first.endsNot = false)
    (hb : Blank b) (hne : b ≠ []) (hs' : BeginsList AfterBlank s') :
    BeginsList (Keeps first) (s ++ (b ++ s')) := by
  obtain ⟨u, items, w, b', heq, hspells, hclosed, hb', hafter⟩ := hs'
  obtain ⟨next, later, rfl⟩ := List.exists_cons_of_length_pos hspells.length_pos
  have hfirst : Closed [first] := h.closed (by simp [hne])
  refine ⟨u, first :: .operator .either :: next :: later, s ++ (b ++ w), b', by simp [heq],
    .either h.spells hfirst hnot hb hne hafter.1 hafter.2 hspells, ?_, hb', keeps_cons first _⟩
  rwa [closed_cons_cons, closed_cons_cons]

theorem Reading.begins_condition (h : Reading first s (b ++ x)) (hb : Blank b) (hne : b ≠ [])
    (hs' : Begins s') : BeginsList (Keeps first) (s ++ (b ++ s')) := by
  obtain ⟨u, q, hspells, hclosed⟩ := hs'
  have hfirst : Closed [first] := h.closed (by simp [hne])
  by_cases hnot : first.endsNot
  · obtain ⟨q', hq', hlast, hafter⟩ := h.spells.negate hnot hb hne hspells
    exact ⟨u, [q'], _, [], by simp, hq', hclosed.of_lastWord hlast.symm, blank_nil, hafter⟩
  rw [Bool.not_eq_true] at hnot
  by_cases hmark : ∃ value, q = .marked .not value
  · -- What would be a negation by itself is an operator here.
    obtain ⟨value, rfl⟩ := hmark
    obtain ⟨b', w, htext, hb', hne', hvalue⟩ := hspells.of_negated
    refine ⟨u, [first, .operator .not, value], s ++ (b ++ (Operator.not.text ++ (b' ++ w))), [],
      by simp [htext], .operator (by simp) h.spells hfirst hnot hb (fun hnil => absurd hnil hne) hb'
      (fun hnil => absurd hnil hne') hvalue, ?_, blank_nil, keeps_cons first _⟩
    rw [closed_cons_cons, closed_cons_cons]
    exact hclosed.of_lastWord rfl
  · refine h.begins_either hnot hb hne
      ⟨u, [q], s' ++ u, [], by simp, hspells, hclosed, blank_nil, ?_⟩
    exact ⟨fun value hq => hmark ⟨value, hq⟩, fun _ => rfl⟩

theorem Reading.begins_onset {more : Text} (h : Reading first s (s' ++ more)) (hs' : Onset s') :
    BeginsList (Keeps first) (s ++ s') := by
  cases hs' with
  | blank hb =>
    have hlist := beginsList_of_spells h.spells (by simpa using h.endsWord) hb
    exact hlist.mono fun _ hafter hfirst _ => hafter hfirst
  | operator hop h₁ h₂ hend hs =>
    simp only [List.append_assoc] at h
    exact h.begins_operator hop h₁ h₂ hend hs.list
  | either hb hne hs =>
    rw [List.append_assoc] at h
    exact h.begins_condition hb hne hs

theorem Reading.begins_keyword {more : Text} (h : Reading first s (b ++ (op.text ++ (s' ++ more))))
    (hop : op ≠ .either) (hb : Blank b) (hne : b ≠ [])
    (hlast : condition ((s' ++ more).dropWhile isSpace) = none) (hs' : Onset s') :
    BeginsList (Keeps first) (s ++ (b ++ (op.text ++ s'))) := by
  cases hs' with
  | blank hb' =>
    have hword : Spells [.term op.text] op.text := by
      refine .word (.inr (Operator.isTerm hop)) (Tame.signFree ?_)
      cases op with
      | either => exact absurd rfl hop
      | _ => simp [Tame, Operator.text]
    have hclosed : Closed [.term op.text] := closed_term (by cases op <;> rfl)
    refine ⟨[], [first, .operator .either, .term op.text], s ++ (b ++ op.text), s', by simp,
      .either h.spells (h.closed (by simp [hne])) (h.endsNot_of_operator hop hb) hb hne (by simp)
      (fun _ => rfl) hword, ?_, hb', keeps_cons first _⟩
    rwa [closed_cons_cons, closed_cons_cons]
  | @operator op' b₁ b₂ s'' hop' h₁ h₂ hend hs =>
    -- The second operator would be a condition after the first.
    simp only [List.append_assoc] at hlast
    rw [dropWhile_append h₁ (Operator.starts hop' _).trimmed] at hlast
    obtain ⟨found, hfound⟩ :=
      exists_condition ((Operator.isTerm hop').head?_append (b₂ ++ (s'' ++ more)))
    simp [hlast] at hfound
  | either hb' hne' hs =>
    exact h.begins_operator hop hb hb' (atWordEnd_append hb' hne' _) hs.list

end

end Scan

end SearchQuery
