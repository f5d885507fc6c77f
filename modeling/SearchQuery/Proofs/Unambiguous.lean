import SearchQuery.Proofs.Reading

/-! # Spellings are unambiguous -/

namespace SearchQuery

/-! ## What follows a condition -/

/-- A word ends here, and nothing that it could be taken for goes on. -/
def Stops (after : Text) : Prop := ∀ x ∈ after.head?, isSpace x ∨ x = ')'

/-- A list ends here. -/
def ListEnds (after : Text) : Prop := ∀ x ∈ (after.dropWhile isSpace).head?, x = ')'

/-- The last word of the query ends where the text starts. -/
structure EndsBefore (q : Query) (after : Text) : Prop where
  stops : ∀ word ∈ q.lastWord?, Stops after
  closed : Closed [q] ∨ after = []

/-- The text can follow the query without changing how the query is read. -/
structure Follows (q : Query) (after : Text) : Prop extends EndsBefore q after where
  ends : q.endsNot → ListEnds after

theorem Stops.atWordEnd {after : Text} (h : Stops after) : atWordEnd after := by
  rw [atWordEnd_iff]
  intro x hx
  rcases h x hx with hspace | rfl
  · exact isTermChar_of_isSpace hspace
  · decide

theorem Stops.not_starts {after : Text} (h : Stops after) : ¬ Starts after := by
  intro hstarts
  obtain ⟨x, rest, rfl, hx⟩ := hstarts
  rcases h x rfl with hspace | rfl
  · have htrimmed := Starts.trimmed ⟨x, rest, rfl, hx⟩ x rfl
    simp [hspace] at htrimmed
  · exact absurd hx (by decide)

theorem Stops.of_blank {b : Text} (hb : Blank b) (hne : b ≠ []) (t : Text) : Stops (b ++ t) := by
  obtain ⟨x, b, rfl⟩ := List.exists_cons_of_ne_nil hne
  intro y hy
  obtain rfl : x = y := by simpa using hy
  exact .inl (hb x (by simp))

theorem ListEnds.stops {after : Text} (h : ListEnds after) : Stops after := by
  intro x hx
  obtain ⟨rest, rfl⟩ := List.head?_eq_some_iff.mp hx
  by_cases hspace : isSpace x
  · exact .inl hspace
  · exact .inr (h x (by simp [hspace]))

theorem ListEnds.condition_eq_none {after : Text} (h : ListEnds after) :
    Scan.condition (after.dropWhile isSpace) = none := by
  apply Scan.condition_eq_none
  rintro ⟨x, rest, heq, hx⟩
  obtain rfl : x = ')' := h x (by rw [heq, List.head?_cons, Option.mem_some])
  exact absurd hx (by decide)

theorem listEnds_of_blank {b : Text} (hb : Blank b) : ListEnds b := by
  simp [ListEnds, dropWhile_eq_nil_iff.mpr hb]

theorem closing_trimmed (after : Text) : Trimmed (")" ++ after) := by
  intro x hx
  obtain rfl : ')' = x := by simpa using hx
  decide

theorem listEnds_closing {b : Text} (hb : Blank b) (after : Text) :
    ListEnds (b ++ (")" ++ after)) := by
  intro x hx
  rw [dropWhile_append hb (closing_trimmed after)] at hx
  exact (Option.some.inj hx).symm

theorem EndsBefore.endsWord {q : Query} {after word : Text} (h : EndsBefore q after)
    (hword : word ∈ q.lastWord?) : EndsWord word after := by
  refine ⟨(h.stops word hword).atWordEnd, fun hdangling => ?_⟩
  rcases h.closed with hclosed | hnil
  · rw [closed_singleton.mp hclosed word hword] at hdangling
    simp at hdangling
  · exact hnil

theorem EndsBefore.of_lastWord {q q' : Query} {after : Text} (h : EndsBefore q after)
    (heq : q.lastWord? = q'.lastWord?) : EndsBefore q' after := by
  refine ⟨heq ▸ h.stops, ?_⟩
  rw [closed_singleton, ← heq, ← closed_singleton]
  exact h.closed

theorem follows_of_listEnds {q : Query} {after : Text} (h : ListEnds after)
    (hclosed : Closed [q] ∨ after = []) : Follows q after :=
  ⟨⟨fun _ _ => h.stops, hclosed⟩, fun _ => h⟩

theorem IsWord.eq_of_append {raw raw' rest rest' : Text} (h : IsWord raw) (hend : EndsWord raw rest)
    (h' : IsWord raw') (hend' : EndsWord raw' rest') (heq : raw ++ rest = raw' ++ rest') :
    raw = raw' ∧ rest = rest' := by
  have hsplit := Lexeme.split_word_iff.mpr ⟨h, rfl, hend⟩
  have hsplit' := Lexeme.split_word_iff.mpr ⟨h', heq, hend'⟩
  exact Prod.mk.inj (Option.some.inj (hsplit.symm.trans hsplit'))

namespace Scan

open Lexeme

/-! ## Alternatives that fail -/

theorem parented_eq_none {x : Char} (h : x ≠ '(') (t : Text) :
    parented condition (x :: t) = none := by
  rw [Option.eq_none_iff_forall_ne_some]
  rintro ⟨q, rest⟩ hfound
  obtain ⟨_, _, _, -, heq, -⟩ := parented_iff.mp hfound
  exact h (List.cons.inj heq).1

theorem longNegation_cons_eq_none {x : Char} (h : x ≠ 'N') (t : Text) :
    longNegation condition (x :: t) = none := by
  rw [Option.eq_none_iff_forall_ne_some]
  rintro ⟨q, rest⟩ hfound
  obtain ⟨_, _, _, -, heq, -⟩ := longNegation_iff.mp hfound
  exact h (List.cons.inj heq).1

theorem longNegation_eq_none {raw after : Text} (hraw : IsWord raw) (hend : EndsWord raw after)
    (h : raw = Mark.not.text → condition (after.dropWhile isSpace) = none) :
    longNegation condition (raw ++ after) = none := by
  rw [Option.eq_none_iff_forall_ne_some]
  rintro ⟨q, rest⟩ hfound
  obtain ⟨b, u, value, -, heq, hb, hne, hu, hvalue⟩ := longNegation_iff.mp hfound
  have hnot : IsWord Mark.not.text := .inr (Operator.isTerm (show Operator.not ≠ .either by simp))
  obtain ⟨rfl, rfl⟩ := hraw.eq_of_append hend hnot
    (endsWord_of_closed rfl (atWordEnd_append hb hne u)) heq
  rw [dropWhile_append hb hu] at h
  exact Option.eq_none_iff_forall_ne_some.mp (h rfl) _ hvalue

theorem signed_eq_none {raw after : Text} {mark : Mark} (hne : raw ≠ []) (hmark : mark ≠ .not)
    (hfree : SignFree raw) (hafter : ¬ Starts after) :
    signed condition mark (raw ++ after) = none := by
  rw [Option.eq_none_iff_forall_ne_some]
  rintro ⟨q, rest⟩ hfound
  obtain ⟨u, value, -, heq, hvalue⟩ := signed_iff.mp hfound
  have hstarts := starts_of_condition hvalue
  obtain ⟨sign, hsign⟩ : ∃ sign, mark.text = [sign] := by
    cases mark with
    | not => exact absurd rfl hmark
    | plus => exact ⟨_, rfl⟩
    | minus => exact ⟨_, rfl⟩
  obtain ⟨x, r, rfl⟩ := List.exists_cons_of_ne_nil hne
  rw [hsign] at heq
  obtain ⟨rfl, rfl⟩ := List.cons.inj heq
  have hbarren : Barren r := hfree mark hmark r (by rw [hsign]; rfl)
  cases r with
  | nil => exact hafter hstarts
  | cons y r =>
    obtain rfl : y = '/' := hbarren y rfl
    obtain ⟨z, _, hz, hstart⟩ := hstarts
    obtain rfl := (List.cons.inj hz).1
    exact absurd hstart (by decide)

theorem fieldCondition_eq_none {raw after : Text} (hraw : IsWord raw) (hend : EndsWord raw after)
    (hcolon : after.head? ≠ some ':') : fieldCondition condition (raw ++ after) = none := by
  rw [Option.eq_none_iff_forall_ne_some]
  rintro ⟨q, rest⟩ hfound
  obtain ⟨name, u, value, -, hname, hclosed, heq, -⟩ := fieldCondition_iff.mp hfound
  obtain ⟨-, rfl⟩ := hraw.eq_of_append hend (.inr hname) (endsWord_of_closed hclosed rfl) heq
  exact hcolon rfl

/-! ## Values of fields -/

theorem rangeCondition_eq_none {x : Char} (h : x ≠ '[') (h' : x ≠ '\x7b') (t : Text) :
    rangeCondition (x :: t) = none := by
  have hopening : split rangeOpening (x :: t) = none := by
    rw [Option.eq_none_iff_forall_ne_some]
    rintro ⟨s, rest⟩ hfound
    obtain ⟨edge, -, heq⟩ := split_rangeOpening_iff.mp hfound
    cases edge with
    | inclusive => exact h (List.cons.inj heq).1
    | exclusive => exact h' (List.cons.inj heq).1
  simp [rangeCondition, hopening]

theorem simpleRangeCondition_eq_none {x : Char} (h : x ≠ '>') (h' : x ≠ '<') (t : Text) :
    simpleRangeCondition (x :: t) = none := by
  rw [Option.eq_none_iff_forall_ne_some]
  rintro ⟨q, rest⟩ hfound
  obtain ⟨operand, raw, -, heq, -⟩ := simpleRangeCondition_iff.mp hfound
  cases operand with
  | greater | greaterEqual => exact h (List.cons.inj heq).1
  | less | lessEqual => exact h' (List.cons.inj heq).1

theorem simpleRangeCondition_of_free {raw after : Text} (hfree : ComparisonFree raw)
    (hafter : ¬ Starts after) : simpleRangeCondition (raw ++ after) = none := by
  rw [Option.eq_none_iff_forall_ne_some]
  rintro ⟨q, rest⟩ hfound
  obtain ⟨operand, raw', -, heq, hraw', hcomparable, -⟩ := simpleRangeCondition_iff.mp hfound
  have hstarts : Starts (raw' ++ rest) := hraw'.starts.append rest
  rcases List.append_eq_append_iff.mp heq with ⟨r, hoperand, rfl⟩ | ⟨r, rfl, hrest⟩
  · -- The comparison reaches past the word.
    cases r with
    | nil => exact hafter hstarts
    | cons y r =>
      have hall : operand.text.all isTermStart := by cases operand <;> decide
      have hy : isTermStart y := List.all_eq_true.mp hall y (by simp [hoperand])
      exact hafter ⟨y, _, rfl, by simp [isConditionStart, isWordStart, hy]⟩
  · cases r with
    | nil => exact hafter (by rwa [hrest] at hstarts)
    | cons y r =>
      obtain ⟨x, raw', rfl, hx⟩ := hraw'.starts
      obtain rfl : x = y := (List.cons.inj hrest).1
      obtain rfl : x = '/' := hfree _ _ (split_comparison_iff.mpr ⟨operand, rfl, rfl, hcomparable⟩) x rfl
      exact absurd hx (by decide)

theorem regexCondition_eq_none {x : Char} (h : x ≠ '/') (t : Text) :
    regexCondition (x :: t) = none := by
  rw [Option.eq_none_iff_forall_ne_some]
  rintro ⟨q, rest⟩ hfound
  obtain ⟨_, -, -, heq⟩ := regexCondition_iff.mp hfound
  exact h (List.cons.inj heq).1

theorem value_complete {q : Query} {s after : Text} (h : SpellsValue q s)
    (hends : EndsBefore q after) :
    value condition (s ++ after) = some (q, after) := by
  rw [value_iff]
  cases h with
  | range hlower hclosed hupper hclosed' h₁ h₂ hne₂ h₃ hne₃ h₄ =>
    refine .inl ?_
    simp only [List.append_assoc]
    exact rangeCondition_complete hlower hclosed hupper hclosed' h₁ h₂ hne₂ h₃ hne₃ h₄ after
  | @comparison operand raw hraw hcomparable =>
    refine .inr ⟨?_, .inl ?_⟩
    · cases operand <;> exact rangeCondition_eq_none (by decide) (by decide) _
    · exact simpleRangeCondition_iff.mpr ⟨operand, raw, rfl, List.append_assoc .., hraw, hcomparable,
        hends.endsWord rfl⟩
  | @regex expression hbody =>
    refine .inr ⟨rangeCondition_eq_none (by decide) (by decide) _, .inr
      ⟨simpleRangeCondition_eq_none (by decide) (by decide) _, .inl ?_⟩⟩
    exact regexCondition_iff.mpr ⟨expression, rfl, hbody, by simp⟩
  | word hraw hfree =>
    have hafter : ¬ Starts after := (hends.stops s rfl).not_starts
    have hdetached := detachedCondition_iff.mpr ⟨s, rfl, hraw, rfl, hends.endsWord rfl⟩
    have hcomparison := simpleRangeCondition_of_free hfree hafter
    obtain ⟨x, s, rfl, hx⟩ := hraw.start
    refine .inr ⟨rangeCondition_eq_none ?_ ?_ _, .inr ⟨hcomparison, .inr
      ⟨regexCondition_eq_none ?_ _, .inr ⟨parented_eq_none ?_ _, hdetached⟩⟩⟩⟩
    all_goals exact ne_of_isWordStart hx (by decide)

theorem value_parenthesized {t rest : Text} {inner : Query}
    (h : condition t = some (.parenthesized inner, rest)) :
    value condition t = some (.parenthesized inner, rest) := by
  have hparented := (alternative_of_condition h).1 inner rfl
  obtain ⟨u, _, _, -, rfl, -⟩ := parented_iff.mp hparented
  exact value_iff.mpr (.inr ⟨rangeCondition_eq_none (by decide) (by decide) u,
    .inr ⟨simpleRangeCondition_eq_none (by decide) (by decide) u,
    .inr ⟨regexCondition_eq_none (by decide) u, .inl hparented⟩⟩⟩)

/-! ## Conditions -/

/-- The text is read as the condition before anything that can follow it. -/
def Read (q : Query) (s : Text) : Prop :=
  ∀ after, Follows q after → condition (s ++ after) = some (q, after)

/-- The text is read as the items before anything that ends a list. -/
def ReadAll (items : List Query) (s : Text) : Prop :=
  ∀ after, ListEnds after → (Closed items ∨ after = []) →
    Scan.items condition (s ++ after) = some (items, after)

theorem read_word {raw : Text} (hraw : IsWord raw) (hfree : SignFree raw) : Read (.term raw) raw := by
  intro after hfollows
  have hstops : Stops after := hfollows.stops raw rfl
  have hend : EndsWord raw after := hfollows.endsWord rfl
  have hparented : parented condition (raw ++ after) = none := by
    obtain ⟨x, raw, rfl, hx⟩ := hraw.start
    exact parented_eq_none (ne_of_isWordStart hx (by decide)) _
  have hnegation : longNegation condition (raw ++ after) = none := by
    refine longNegation_eq_none hraw hend fun hnot => ?_
    exact (hfollows.ends (decide_eq_true hnot)).condition_eq_none
  have hfield : fieldCondition condition (raw ++ after) = none := by
    refine fieldCondition_eq_none hraw hend fun hcolon => ?_
    exact absurd (hstops ':' hcolon) (by decide)
  rw [condition_iff]
  exact .inr ⟨hparented, .inr ⟨hnegation,
    .inr ⟨signed_eq_none hraw.ne_nil Mark.noConfusion hfree hstops.not_starts,
    .inr ⟨signed_eq_none hraw.ne_nil Mark.noConfusion hfree hstops.not_starts,
    .inr ⟨hfield, detachedCondition_iff.mpr ⟨raw, rfl, hraw, rfl, hend⟩⟩⟩⟩⟩⟩

theorem parented_complete {items : List Query} {inner : Query} {s b₁ b₂ : Text} (hs : Starts s)
    (hitems : ReadAll items s) (hclosed : Closed items) (hinner : Query.ofItems? items = some inner)
    (h₁ : Blank b₁) (h₂ : Blank b₂) (after : Text) :
    parented condition (("(" ++ (b₁ ++ (s ++ (b₂ ++ ")")))) ++ after) =
      some (.parenthesized inner, after) := by
  rw [parented_iff]
  refine ⟨_, inner, b₂ ++ (")" ++ after), rfl, List.append_assoc .., ?_, ?_⟩
  · simp only [List.append_assoc]
    rw [dropWhile_append h₁ (hs.append _).trimmed, list_iff]
    exact ⟨items, hitems _ (listEnds_closing h₂ after) (.inl hclosed), hinner⟩
  · exact dropWhile_append h₂ (closing_trimmed after)

theorem read_negated {value : Query} {s b : Text} (hs : Starts s) (hvalue : Read value s)
    (hb : Blank b) (hne : b ≠ []) : Read (.marked .not value) (Mark.not.text ++ (b ++ s)) := by
  intro after hfollows
  rw [condition_iff]
  refine .inr ⟨parented_eq_none (by decide) _, .inl (longNegation_iff.mpr
    ⟨b, s ++ after, value, rfl, by simp, hb, hne, (hs.append after).trimmed, ?_⟩)⟩
  exact hvalue after ⟨hfollows.of_lastWord rfl, hfollows.ends⟩

theorem read_signed {mark : Mark} {value : Query} {s : Text} (hmark : mark ≠ .not)
    (hvalue : Read value s) : Read (.marked mark value) (mark.text ++ s) := by
  intro after hfollows
  have hsigned : signed condition mark (mark.text ++ s ++ after) = some (.marked mark value, after) := by
    refine signed_iff.mpr ⟨s ++ after, value, rfl, List.append_assoc .., ?_⟩
    exact hvalue after ⟨hfollows.of_lastWord rfl, hfollows.ends⟩
  rw [condition_iff]
  cases mark with
  | not => exact absurd rfl hmark
  | minus =>
    exact .inr ⟨parented_eq_none (by decide) _, .inr ⟨longNegation_cons_eq_none (by decide) _,
      .inl hsigned⟩⟩
  | plus =>
    have hminus : signed condition .minus (Mark.plus.text ++ s ++ after) = none := by
      rw [Option.eq_none_iff_forall_ne_some]
      rintro ⟨q, rest⟩ hfound
      obtain ⟨_, _, -, heq, -⟩ := signed_iff.mp hfound
      exact absurd (List.cons.inj heq).1 (by decide)
    exact .inr ⟨parented_eq_none (by decide) _, .inr ⟨longNegation_cons_eq_none (by decide) _,
      .inr ⟨hminus, .inl hsigned⟩⟩⟩

theorem read_field {name : Text} {q : Query} {s : Text} (hname : IsTerm name)
    (hclosed : dangling name = false) (hfree : SignFree name)
    (hvalue : ∀ after, EndsBefore q after → value condition (s ++ after) = some (q, after)) :
    Read (.field name q) (name ++ (":" ++ s)) := by
  intro after hfollows
  have hcolon : ¬ Starts (":" ++ (s ++ after)) := by
    rintro ⟨x, rest, heq, hx⟩
    obtain rfl : ':' = x := (List.cons.inj heq).1
    exact absurd hx (by decide)
  have hend : EndsWord name (":" ++ (s ++ after)) := endsWord_of_closed hclosed rfl
  have hparented : parented condition (name ++ (":" ++ (s ++ after))) = none := by
    obtain ⟨x, name, rfl, hx⟩ := IsWord.start (.inr hname)
    exact parented_eq_none (ne_of_isWordStart hx (by decide)) _
  have hnegation : longNegation condition (name ++ (":" ++ (s ++ after))) = none :=
    longNegation_eq_none (.inr hname) hend fun _ => condition_eq_none hcolon
  rw [List.append_assoc, List.append_assoc, condition_iff]
  exact .inr ⟨hparented, .inr ⟨hnegation,
    .inr ⟨signed_eq_none hname.ne_nil Mark.noConfusion hfree hcolon,
    .inr ⟨signed_eq_none hname.ne_nil Mark.noConfusion hfree hcolon,
    .inl (fieldCondition_iff.mpr ⟨name, s ++ after, q, rfl, hname, hclosed, rfl,
      hvalue after (hfollows.of_lastWord rfl)⟩)⟩⟩⟩⟩

/-! ## Lists -/

theorem tail_of_listEnds {after : Text} (h : ListEnds after) : tail condition after = ([], after) := by
  rw [tail_eq, continuation_eq_none h.condition_eq_none]

theorem readAll_singleton {q : Query} {s : Text} (h : Read q s) : ReadAll [q] s := by
  intro after hlist hclosed
  rw [items_iff]
  exact ⟨q, after, h after (follows_of_listEnds hlist hclosed), by simp [tail_of_listEnds hlist]⟩

theorem condition_operator {op : Operator} {v w : Text} {next : Query} (hop : op ≠ .either)
    (hend : atWordEnd v) (h : condition (op.text ++ v) = some (next, w)) :
    (∃ value, next = .marked .not value) ∨ v.head? = some ':' ∨ next = .term op.text ∧ w = v := by
  have hword : IsWord op.text := .inr (Operator.isTerm hop)
  have hends : EndsWord op.text v := endsWord_of_closed (by cases op <;> rfl) hend
  obtain ⟨x, rest, hx, hletter⟩ : ∃ x rest, op.text = x :: rest ∧ x ∈ ['A', 'O', 'N'] := by
    cases op with
    | either => exact absurd rfl hop
    | _ => exact ⟨_, _, rfl, by decide⟩
  rcases condition_iff.mp h with h | ⟨-, h | ⟨-, h | ⟨-, h | ⟨-, h | ⟨-, h⟩⟩⟩⟩⟩
  · obtain ⟨_, _, _, -, heq, -⟩ := parented_iff.mp h
    rw [hx] at heq
    obtain rfl : x = '(' := (List.cons.inj heq).1
    exact absurd hletter (by decide)
  · obtain ⟨_, _, value, rfl, -⟩ := longNegation_iff.mp h
    exact .inl ⟨value, rfl⟩
  · obtain ⟨_, _, -, heq, -⟩ := signed_iff.mp h
    rw [hx] at heq
    obtain rfl : x = '-' := (List.cons.inj heq).1
    exact absurd hletter (by decide)
  · obtain ⟨_, _, -, heq, -⟩ := signed_iff.mp h
    rw [hx] at heq
    obtain rfl : x = '+' := (List.cons.inj heq).1
    exact absurd hletter (by decide)
  · obtain ⟨name, u, _, -, hname, hclosed, heq, -⟩ := fieldCondition_iff.mp h
    obtain ⟨-, rfl⟩ := hword.eq_of_append hends (.inr hname) (endsWord_of_closed hclosed rfl) heq
    exact .inr (.inl rfl)
  · obtain ⟨raw, rfl, hraw, heq, hend'⟩ := detachedCondition_iff.mp h
    obtain ⟨rfl, rfl⟩ := hword.eq_of_append hends hraw hend' heq
    exact .inr (.inr ⟨rfl, rfl⟩)

section

variable {first next : Query} {later : List Query} {s u : Text} (hfirst : Read first s)
  (hclosed : Closed [first]) (hnot : first.endsNot = false) (hlater : ReadAll (next :: later) u)

include hfirst hclosed hnot hlater

theorem readAll_join {op : Query} {separator : Text}
    (hstops : ∀ word ∈ first.lastWord?, ∀ t, Stops (separator ++ t))
    (hseparator : ∀ after w, ListEnds after → condition (u ++ after) = some (next, w) →
      tail condition w = (later, after) →
      continuation condition (separator ++ (u ++ after)) = some ((op, next), w)) :
    ReadAll (first :: op :: next :: later) (s ++ (separator ++ u)) := by
  intro after hlist hclosed'
  rw [closed_cons_cons, closed_cons_cons] at hclosed'
  obtain ⟨_, w, hnext, heq, hafter⟩ := items_iff.mp (hlater after hlist hclosed')
  obtain ⟨rfl, hlater'⟩ := List.cons.inj heq
  have htail : tail condition w = (later, after) := Prod.ext hlater'.symm hafter.symm
  have htail' : tail condition (separator ++ (u ++ after)) = (op :: next :: later, after) := by
    rw [tail_eq, hseparator after w hlist hnext htail]
    simp only [htail]
  rw [List.append_assoc, List.append_assoc, items_iff]
  refine ⟨first, separator ++ (u ++ after), hfirst _ ⟨⟨?_, .inl hclosed⟩, ?_⟩, ?_⟩
  · exact fun word hword => hstops word hword _
  · simp [hnot]
  · simp [htail']

theorem readAll_operator {op : Operator} {b₁ b₂ : Text} (hop : op ≠ .either) (hu : Starts u)
    (h₁ : Blank b₁) (hglued : b₁ = [] → first.lastWord? = none)
    (h₂ : Blank b₂) (hglued' : b₂ = [] → atWordEnd u) :
    ReadAll (first :: .operator op :: next :: later) (s ++ (b₁ ++ (op.text ++ (b₂ ++ u)))) := by
  have htext : s ++ (b₁ ++ (op.text ++ (b₂ ++ u))) = s ++ ((b₁ ++ (op.text ++ b₂)) ++ u) := by simp
  rw [htext]
  refine readAll_join hfirst hclosed hnot hlater ?_ ?_
  · intro word hword t
    rw [List.append_assoc]
    apply Stops.of_blank h₁
    rintro rfl
    simp [hglued rfl] at hword
  · intro after w _ hnext _
    have hend : atWordEnd (b₂ ++ (u ++ after)) := by
      by_cases hne : b₂ = []
      · subst hne
        rw [List.nil_append, hu.atWordEnd_append]
        exact hglued' rfl
      · exact atWordEnd_append h₂ hne _
    rw [continuation_iff]
    refine .inl (separated_iff.mpr ⟨u ++ after, spacedOperator_iff.mpr ?_, hnext⟩)
    exact ⟨op, b₁, b₂ ++ (u ++ after), rfl, hop, h₁, by simp, hend,
      (dropWhile_append h₂ (hu.append after).trimmed).symm⟩

theorem readAll_either {b : Text} (hu : Starts u) (hb : Blank b) (hne : b ≠ [])
    (hmark : ∀ value, next ≠ .marked .not value) (hkeyword : next.isKeyword → later = []) :
    ReadAll (first :: .operator .either :: next :: later) (s ++ (b ++ u)) := by
  refine readAll_join hfirst hclosed hnot hlater (fun _ _ t => Stops.of_blank hb hne t) ?_
  intro after w hlist hnext htail
  have htrimmed : Trimmed (u ++ after) := (hu.append after).trimmed
  rw [continuation_iff]
  refine .inr ⟨?_, separated_iff.mpr ⟨u ++ after, orSpace_iff.mpr ⟨b, rfl, hb, hne, rfl, htrimmed⟩,
    hnext⟩⟩
  rw [Option.eq_none_iff_forall_ne_some]
  rintro ⟨⟨op, other⟩, rest⟩ hfound
  obtain ⟨_, hspaced, hother⟩ := separated_iff.mp hfound
  obtain ⟨op, b', v, -, hop, hb', heq, hend, rfl⟩ := spacedOperator_iff.mp hspaced
  obtain heq : u ++ after = op.text ++ v := by
    rw [← dropWhile_append hb htrimmed, heq, dropWhile_append hb' (Operator.starts hop v).trimmed]
  rw [heq] at hnext
  rcases condition_operator hop hend hnext with ⟨value, rfl⟩ | hcolon | ⟨rfl, rfl⟩
  · exact hmark value rfl
  · -- The word is the name of a field.
    obtain ⟨v, rfl⟩ := List.head?_eq_some_iff.mp hcolon
    obtain ⟨x, rest, hx, hstart⟩ := starts_of_condition hother
    obtain rfl : ':' = x := (List.cons.inj hx).1
    exact absurd hstart (by decide)
  · -- The word is a term, and the list ends after it.
    obtain rfl : later = [] := hkeyword (by simp [Query.isKeyword, hop])
    have hw : w = after := by
      rw [tail_eq] at htail
      cases hcont : continuation condition w with
      | none =>
        rw [hcont] at htail
        exact (Prod.mk.inj htail).2
      | some found =>
        rw [hcont] at htail
        simp at htail
    rw [hw, hlist.condition_eq_none] at hother
    simp at hother

end

/-- Every spelling is read as what it spells. -/
theorem spells_complete {items : List Query} {s : Text} (h : Spells items s) :
    (∀ q, items = [q] → Read q s) ∧ ReadAll items s := by
  have hsingle : ∀ {q : Query} {s : Text}, Read q s →
      (∀ q', [q] = [q'] → Read q' s) ∧ ReadAll [q] s := by
    intro q s hread
    refine ⟨fun q' heq => ?_, readAll_singleton hread⟩
    obtain rfl := List.singleton_inj.mp heq
    exact hread
  induction h with
  | word hraw hfree => exact hsingle (read_word hraw hfree)
  | parenthesized hitems hclosed hinner h₁ h₂ ih =>
    refine hsingle fun after _ => condition_iff.mpr (.inl ?_)
    exact parented_complete hitems.starts ih.2 hclosed hinner h₁ h₂ after
  | negated hvalue hb hne ih => exact hsingle (read_negated hvalue.starts (ih.1 _ rfl) hb hne)
  | signed hmark hvalue ih => exact hsingle (read_signed hmark (ih.1 _ rfl))
  | field hname hclosed hfree hvalue =>
    exact hsingle (read_field hname hclosed hfree fun after hends => value_complete hvalue hends)
  | fieldParenthesized hname hclosed hfree hvalue ih =>
    refine hsingle (read_field hname hclosed hfree fun after hends => value_parenthesized ?_)
    exact ih.1 _ rfl after ⟨hends, nofun⟩
  | either hfirst hclosed hnot hb hne hmark hkeyword hlater ih ih' =>
    refine ⟨fun q heq => by simp at heq, ?_⟩
    exact readAll_either (ih.1 _ rfl) hclosed hnot ih'.2 hlater.starts hb hne hmark hkeyword
  | operator hop hfirst hclosed hnot h₁ hglued h₂ hglued' hlater ih ih' =>
    refine ⟨fun q heq => by simp at heq, ?_⟩
    exact readAll_operator (ih.1 _ rfl) hclosed hnot ih'.2 hop hlater.starts h₁ hglued h₂ hglued'

/-! ## Whole queries -/

theorem query_iff {t rest : Text} {q : Query} : Scan.query t = some (q, rest) ↔ ∃ items v,
    Query.ofItems? items = some q ∧
    Scan.items condition (t.dropWhile isSpace) = some (items, v) ∧ Blank v ∧ rest = [] := by
  simp only [Scan.query, Option.bind_eq_bind, Option.bind_eq_some_iff, Prod.exists, list_iff,
    Option.ite_none_right_eq_some, dropWhile_eq_nil_iff]
  constructor
  · rintro ⟨q, v, ⟨items, hitems, hq⟩, hv, heq⟩
    obtain ⟨rfl, rfl⟩ := Prod.mk.inj (Option.some.inj heq)
    exact ⟨items, v, hq, hitems, hv, rfl⟩
  · rintro ⟨items, v, hq, hitems, hv, rfl⟩
    exact ⟨q, v, ⟨items, hitems, hq⟩, hv, rfl⟩

theorem query_eq_some_iff {t : Text} {q : Query} : Scan.query t = some (q, []) ↔ ∃ items b s b',
    Query.ofItems? items = some q ∧ Spells items s ∧ Blank b ∧ Blank b' ∧
    (Closed items ∨ b' = []) ∧ t = b ++ (s ++ b') := by
  rw [query_iff]
  constructor
  · rintro ⟨items, b', hq, hitems, hb', -⟩
    obtain ⟨b, hb, ht⟩ := exists_blank t
    obtain ⟨s, hs, hspells, hlast⟩ := items_sound (fun t _ => condition_sound t)
      (Nat.lt_succ_self _) hitems
    refine ⟨items, b, s, b', hq, hspells, hb, hb', ?_, hs ▸ ht⟩
    refine (Decidable.em (b' = [])).symm.imp_left fun hne last hmem word hword => ?_
    exact (hlast last hmem word hword).closed hne
  · rintro ⟨items, b, s, b', hq, hspells, hb, hb', hclosed, rfl⟩
    refine ⟨items, b', hq, ?_, hb', rfl⟩
    rw [dropWhile_append hb (hspells.starts.append b').trimmed]
    exact (spells_complete hspells).2 b' (listEnds_of_blank hb') hclosed

end Scan

/-! ## Parsing -/

/-- A text parses as a query exactly if it is a spelling of it between blanks. -/
theorem parse_eq_ok_iff {t : Text} {q : Query} : parse t = .ok q ↔ ∃ items b s b',
    Query.ofItems? items = some q ∧ Spells items s ∧ Blank b ∧ Blank b' ∧
    (Closed items ∨ b' = []) ∧ t = b ++ (s ++ b') := by
  rw [← Scan.query_eq_some_iff]
  rcases parse_cases t with ⟨q', rest, hquery, hparse⟩ | ⟨hquery, m, hparse⟩
  · obtain ⟨_, _, _, _, _, rfl⟩ := Scan.query_iff.mp hquery
    simp [hquery, hparse]
  · simp [hquery, hparse]

end SearchQuery
