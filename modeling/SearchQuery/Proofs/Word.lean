import SearchQuery.Proofs.Lexeme
import SearchQuery.Query

/-! # Words -/

namespace SearchQuery

/-! ## Escapes -/

/-- The text ends with a backslash that has no character to take along. -/
def dangling : Text → Bool
  | [] => false
  | ['\\'] => true
  | '\\' :: _ :: rest => dangling rest
  | _ :: rest => dangling rest

theorem dangling_cons {x : Char} (h : x ≠ '\\') (rest : Text) :
    dangling (x :: rest) = dangling rest := by
  rw [dangling.eq_def]
  split <;> simp_all

theorem dangling_append {s : Text} (h : dangling s = false) (t : Text) :
    dangling (s ++ t) = dangling t := by
  fun_induction dangling s with
  | case1 => rfl
  | case2 => simp at h
  | case3 x rest ih => simpa [dangling] using ih h
  | case4 x rest hback hesc ih =>
    have hx : x ≠ '\\' := by
      rintro rfl
      cases rest with
      | nil => exact hback rfl rfl
      | cons y rest => exact hesc _ _ rfl rfl
    rw [List.cons_append, dangling_cons hx, ih h]

namespace Text

section

variable (inClass : Char → Bool) (hback : inClass '\\')

theorem escapedRun_cons {x : Char} (h : x ≠ '\\') (rest : Text) :
    escapedRun inClass (x :: rest) = if inClass x then x :: escapedRun inClass rest else [] :=
  escapedRun.eq_3 inClass x rest fun _ _ hx _ => h hx

include hback

/-- A run stops before a character outside the class, and one that ends in a backslash of its own
takes all of the text. -/
theorem escapedRun_spec (t : Text) : ∃ rest, t = t.escapedRun inClass ++ rest ∧
    (∀ x ∈ rest.head?, inClass x = false) ∧ (dangling (t.escapedRun inClass) → rest = []) ∧
    (t.escapedRun inClass).escapedRun inClass = t.escapedRun inClass := by
  fun_induction escapedRun inClass t with
  | case1 => exact ⟨[], rfl, by simp, by simp, rfl⟩
  | case2 x rest ih =>
    obtain ⟨rest', heq, hhead, hdangling, hrun⟩ := ih
    refine ⟨rest', by rw [List.cons_append, List.cons_append, ← heq], hhead, ?_, ?_⟩
    · simpa [dangling] using hdangling
    · rw [escapedRun, hrun]
  | case3 x rest hesc hx ih =>
    by_cases hslash : x = '\\'
    · -- A backslash without a character after it is at the end.
      obtain rfl : rest = [] := by
        cases rest with
        | nil => rfl
        | cons y rest => exact absurd rfl (hesc _ _ hslash)
      subst hslash
      exact ⟨[], rfl, by simp, by simp, by simp [escapedRun, hback]⟩
    · obtain ⟨rest', heq, hhead, hdangling, hrun⟩ := ih
      refine ⟨rest', by rw [List.cons_append, ← heq], hhead, ?_, ?_⟩
      · rwa [dangling_cons hslash]
      · rw [escapedRun_cons inClass hslash, if_pos hx, hrun]
  | case4 x rest hesc hx => exact ⟨x :: rest, rfl, by simpa using hx, by simp [dangling], rfl⟩

theorem escapedRun_append {s rest : Text} (hs : s.escapedRun inClass = s)
    (hhead : ∀ x ∈ rest.head?, inClass x = false) (hdangling : dangling s → rest = []) :
    (s ++ rest).escapedRun inClass = s := by
  fun_induction escapedRun inClass s with
  | case1 =>
    cases rest with
    | nil => rfl
    | cons x rest =>
      have hx : inClass x = false := hhead x rfl
      have hslash : x ≠ '\\' := by
        rintro rfl
        simp [hback] at hx
      rw [List.nil_append, escapedRun_cons inClass hslash, if_neg (by simp [hx])]
  | case2 x s ih =>
    simp only [List.cons.injEq, true_and] at hs
    rw [List.cons_append, List.cons_append, escapedRun, ih hs (by simpa [dangling] using hdangling)]
  | case3 x s hesc hx ih =>
    simp only [List.cons.injEq, true_and] at hs
    by_cases hslash : x = '\\'
    · obtain rfl : s = [] := by
        cases s with
        | nil => rfl
        | cons y s => exact absurd rfl (hesc _ _ hslash)
      subst hslash
      obtain rfl := hdangling rfl
      simp [escapedRun, hback]
    · rw [List.cons_append, escapedRun_cons inClass hslash, if_pos hx,
        ih hs (by rwa [dangling_cons hslash] at hdangling)]
  | case4 x s hesc hx => simp at hs

end

theorem escapedRun_of_delimited {close : Char} {t body after : Text}
    (h : t.delimited close = some (body, after)) : t.escapedRun (· ≠ close) = body := by
  fun_induction Text.delimited close t generalizing body with
  | case1 => simp at h
  | case2 x rest ih =>
    obtain ⟨⟨b, a⟩, hd, heq⟩ := Option.map_eq_some_iff.mp h
    obtain ⟨rfl, rfl⟩ := Prod.mk.inj heq
    rw [Text.escapedRun, ih hd]
  | case3 rest hesc =>
    obtain ⟨rfl, rfl⟩ := Prod.mk.inj (Option.some.inj h)
    rw [Text.escapedRun.eq_3 _ _ _ hesc, if_neg (by simp)]
  | case4 x rest hesc hx ih =>
    obtain ⟨⟨b, a⟩, hd, heq⟩ := Option.map_eq_some_iff.mp h
    obtain ⟨rfl, rfl⟩ := Prod.mk.inj heq
    rw [Text.escapedRun.eq_3 _ _ _ hesc, if_pos (by simpa using hx), ih hd]

theorem escapedRun_of_not_delimited {close : Char} {t : Text} (h : t.delimited close = none) :
    t.escapedRun (· ≠ close) = t := by
  fun_induction Text.delimited close t with
  | case1 => rfl
  | case2 x rest ih => rw [Text.escapedRun, ih (by simpa using h)]
  | case3 rest hesc => simp at h
  | case4 x rest hesc hx ih =>
    rw [Text.escapedRun.eq_3 _ _ _ hesc, if_pos (by simpa using hx), ih (by simpa using h)]

theorem delimited_eq_some_iff {close : Char} {t body after : Text} :
    t.delimited close = some (body, after) ↔
      t.escapedRun (· ≠ close) = body ∧ t = body ++ close :: after := by
  constructor
  · exact fun h => ⟨escapedRun_of_delimited h, delimited_eq h⟩
  · rintro ⟨hrun, ht⟩
    cases hd : t.delimited close with
    | none =>
      rw [escapedRun_of_not_delimited hd] at hrun
      simp [hrun] at ht
    | some found =>
      obtain ⟨body', after'⟩ := found
      have hrun' := escapedRun_of_delimited hd
      have ht' := delimited_eq hd
      obtain rfl : body' = body := hrun'.symm.trans hrun
      simpa using ht'.symm.trans ht

end Text

/-! ## Kinds of words -/

/-- The body of a phrase or of a regular expression: the delimiter stands in it only after a
backslash. -/
def IsBody (close : Char) (s : Text) : Prop :=
  s.escapedRun (· ≠ close) = s ∧ dangling s = false

/-- An unquoted word. -/
def IsTerm (s : Text) : Prop := (∃ x ∈ s.head?, isTermStart x) ∧ termRun s = s

/-- A phrase with whatever is attached to it. -/
def IsPhrase (s : Text) : Prop :=
  ∃ body tail, s = '"' :: (body ++ '"' :: tail) ∧ IsBody '"' body ∧ termRun tail = tail

def IsWord (s : Text) : Prop := IsPhrase s ∨ IsTerm s

/-- The word ends where this text starts. -/
def EndsWord (s rest : Text) : Prop := atWordEnd rest ∧ (dangling s → rest = [])

theorem isTermChar_backslash : isTermChar '\\' = true := by decide

theorem atWordEnd_iff (t : Text) : atWordEnd t = true ↔ ∀ x ∈ t.head?, isTermChar x = false := by
  cases t <;> simp [atWordEnd]

theorem termRun_spec (t : Text) : ∃ rest, t = termRun t ++ rest ∧ EndsWord (termRun t) rest ∧
    termRun (termRun t) = termRun t := by
  obtain ⟨rest, heq, hhead, hdangling, hrun⟩ := Text.escapedRun_spec isTermChar isTermChar_backslash t
  exact ⟨rest, heq, ⟨(atWordEnd_iff rest).mpr hhead, hdangling⟩, hrun⟩

theorem termRun_append {s rest : Text} (hs : termRun s = s) (h : EndsWord s rest) :
    termRun (s ++ rest) = s :=
  Text.escapedRun_append isTermChar isTermChar_backslash hs ((atWordEnd_iff rest).mp h.1) h.2

theorem termRun_of_append {token r : Text} (htoken : '\\' ∉ token)
    (h : termRun (token ++ r) = token ++ r) : termRun r = r := by
  induction token with
  | nil => exact h
  | cons x token ih =>
    simp only [List.mem_cons, not_or] at htoken
    rw [termRun, List.cons_append, Text.escapedRun_cons isTermChar (Ne.symm htoken.1)] at h
    split at h
    · exact ih htoken.2 (List.cons.inj h).2
    · simp at h

theorem isTermChar_of_termRun {r : Text} (h : termRun r = r) : ∀ x ∈ r.head?, isTermChar x := by
  intro x hx
  obtain ⟨r, rfl⟩ := List.head?_eq_some_iff.mp hx
  by_cases hslash : x = '\\'
  · rw [hslash, isTermChar_backslash]
  · rw [termRun, Text.escapedRun_cons isTermChar hslash] at h
    split at h
    · assumption
    · simp at h

theorem EndsWord.closed {s rest : Text} (h : EndsWord s rest) (hne : rest ≠ []) :
    dangling s = false := by
  rw [← Bool.not_eq_true]
  exact fun hs => hne (h.2 hs)

theorem endsWord_of_closed {s rest : Text} (h : dangling s = false) (hend : atWordEnd rest) :
    EndsWord s rest :=
  ⟨hend, by simp [h]⟩

theorem IsTerm.ne_nil {s : Text} (h : IsTerm s) : s ≠ [] := by
  rintro rfl
  obtain ⟨⟨x, hx, -⟩, -⟩ := h
  simp at hx

theorem IsWord.ne_nil {s : Text} (h : IsWord s) : s ≠ [] := by
  rcases h with ⟨body, tail, rfl, -, -⟩ | h
  · simp
  · exact h.ne_nil

theorem IsWord.isTermChar_after {token r : Text} (h : IsWord (token ++ r))
    (htoken : '\\' ∉ token) (hquote : ∃ x ∈ token.head?, x ≠ '"') :
    ∀ x ∈ r.head?, isTermChar x := by
  rcases h with ⟨body, tail, heq, -, -⟩ | ⟨-, hrun⟩
  · obtain ⟨x, hx, hne⟩ := hquote
    obtain ⟨token, rfl⟩ := List.head?_eq_some_iff.mp hx
    exact absurd (List.cons.inj heq).1 hne
  · exact isTermChar_of_termRun (termRun_of_append htoken hrun)

theorem not_isTermStart_quote : isTermStart '"' = false := by decide

/-! ## Blanks -/

def Blank (t : Text) : Prop := ∀ x ∈ t, isSpace x

theorem blank_nil : Blank [] := List.forall_mem_nil _

theorem blank_space : Blank " " := by
  intro x hx
  obtain rfl : x = ' ' := by simpa using hx
  decide

/-- The text does not start with a blank. -/
def Trimmed (t : Text) : Prop := ∀ x ∈ t.head?, isSpace x = false

theorem trimmed_dropWhile (t : Text) : Trimmed (t.dropWhile isSpace) := by
  induction t with
  | nil => simp [Trimmed]
  | cons x rest ih => by_cases hx : isSpace x <;> simp_all [Trimmed]

theorem dropWhile_of_trimmed {t : Text} (h : Trimmed t) : t.dropWhile isSpace = t := by
  cases t with
  | nil => rfl
  | cons x rest => simp [h x rfl]

theorem dropWhile_append {b t : Text} (hb : Blank b) (ht : Trimmed t) :
    (b ++ t).dropWhile isSpace = t := by
  induction b with
  | nil => exact dropWhile_of_trimmed ht
  | cons x b ih =>
    rw [List.cons_append, List.dropWhile_cons_of_pos (hb x (by simp)),
      ih fun y hy => hb y (by simp [hy])]

theorem takeWhile_append {b t : Text} (hb : Blank b) (ht : Trimmed t) :
    (b ++ t).takeWhile isSpace = b := by
  rw [List.takeWhile_append_of_pos hb]
  cases t with
  | nil => simp
  | cons x rest => simp [ht x rfl]

theorem exists_blank (t : Text) : ∃ b, Blank b ∧ t = b ++ t.dropWhile isSpace := by
  induction t with
  | nil => exact ⟨[], blank_nil, rfl⟩
  | cons x rest ih =>
    by_cases hx : isSpace x
    · obtain ⟨b, hb, heq⟩ := ih
      refine ⟨x :: b, ?_, by simpa [hx] using heq⟩
      simpa [Blank, hx] using hb
    · exact ⟨[], blank_nil, by simp [hx]⟩

theorem trimmed_nil : Trimmed [] := by simp [Trimmed]

theorem dropWhile_eq_nil_iff {t : Text} : t.dropWhile isSpace = [] ↔ Blank t := by
  constructor
  · intro h
    obtain ⟨b, hb, ht⟩ := exists_blank t
    rw [h, List.append_nil] at ht
    rwa [ht]
  · intro h
    simpa using dropWhile_append h trimmed_nil

theorem isTermChar_of_isSpace {x : Char} (h : isSpace x) : isTermChar x = false := by
  simp [isTermChar, h]

theorem atWordEnd_append {b : Text} (hb : Blank b) (hne : b ≠ []) (t : Text) :
    atWordEnd (b ++ t) = true := by
  cases b with
  | nil => exact absurd rfl hne
  | cons x b => simp [atWordEnd, isTermChar_of_isSpace (hb x (by simp))]

/-! ## Lexemes and what follows them -/

namespace Lexeme

/-- A lexeme and the text after it. -/
def split (take : Text → Option Text) (t : Text) : Option (Text × Text) :=
  (take t).map fun s => (s, t.drop s.length)

theorem split_eq_some_iff {take : Text → Option Text}
    (hfront : ∀ {t s : Text}, take t = some s → s <+: t) {t s rest : Text} :
    split take t = some (s, rest) ↔ take t = some s ∧ t = s ++ rest := by
  simp only [split, Option.map_eq_some_iff, Prod.mk.injEq]
  constructor
  · rintro ⟨s, hs, rfl, rfl⟩
    obtain ⟨rest, rfl⟩ := hfront hs
    exact ⟨hs, by simp⟩
  · rintro ⟨hs, rfl⟩
    exact ⟨s, hs, rfl, by simp⟩

theorem split_literal_iff {token t s rest : Text} :
    split (literal token) t = some (s, rest) ↔ s = token ∧ t = token ++ rest := by
  rw [split_eq_some_iff (Token.literal_takes token).front, literal,
    Option.ite_none_right_eq_some, Option.some.injEq, List.isPrefixOf_iff_prefix]
  constructor
  · rintro ⟨⟨-, rfl⟩, rfl⟩
    exact ⟨rfl, rfl⟩
  · rintro ⟨rfl, rfl⟩
    exact ⟨⟨⟨rest, rfl⟩, rfl⟩, rfl⟩

theorem split_keyword_iff {token t s rest : Text} :
    split (keyword token) t = some (s, rest) ↔ s = token ∧ t = token ++ rest ∧ atWordEnd rest := by
  rw [split_eq_some_iff (Token.keyword_takes token).front, keyword,
    Option.ite_none_right_eq_some, Option.some.injEq, Bool.and_eq_true,
    List.isPrefixOf_iff_prefix]
  constructor
  · rintro ⟨⟨⟨-, hend⟩, rfl⟩, rfl⟩
    exact ⟨rfl, rfl, by simpa using hend⟩
  · rintro ⟨rfl, rfl, hend⟩
    exact ⟨⟨⟨⟨rest, rfl⟩, by simpa using hend⟩, rfl⟩, rfl⟩

theorem split_body_iff {close : Char} (hclose : close ≠ '\\') {t s rest : Text} :
    split (body close) t = some (s, rest) ↔
      IsBody close s ∧ ∃ after, rest = close :: after ∧ t = s ++ close :: after := by
  have hback : decide ('\\' ≠ close) = true := by simpa using hclose.symm
  rw [split_eq_some_iff (Token.body_takes close).front, body, Option.map_eq_some_iff]
  constructor
  · rintro ⟨⟨⟨s, after⟩, hd, rfl⟩, ht⟩
    obtain ⟨hrun, ht'⟩ := Text.delimited_eq_some_iff.mp hd
    obtain ⟨rest', heq, -, hdangling, hrun'⟩ := Text.escapedRun_spec (· ≠ close) hback t
    rw [hrun] at heq hdangling hrun'
    have hrest : rest' = close :: after := List.append_cancel_left (heq.symm.trans ht')
    refine ⟨⟨hrun', ?_⟩, after, List.append_cancel_left (ht.symm.trans ht'), ht'⟩
    rw [← Bool.not_eq_true]
    intro h
    simp [hdangling h] at hrest
  · rintro ⟨⟨hrun, hdangling⟩, after, rfl, rfl⟩
    refine ⟨⟨(s, after), Text.delimited_eq_some_iff.mpr ⟨?_, rfl⟩, rfl⟩, rfl⟩
    exact Text.escapedRun_append (· ≠ close) hback hrun (by simp) (by simp [hdangling])

theorem split_term_iff {t s rest : Text} :
    split term t = some (s, rest) ↔ IsTerm s ∧ t = s ++ rest ∧ EndsWord s rest := by
  rw [split_eq_some_iff Token.term_takes.front]
  constructor
  · rintro ⟨hs, rfl⟩
    cases hst : s ++ rest with
    | nil => simp [hst, term] at hs
    | cons x t =>
      simp only [hst, term, Option.ite_none_right_eq_some, Option.some.injEq] at hs
      obtain ⟨hx, hs⟩ := hs
      obtain ⟨rest', heq, hend, hrun⟩ := termRun_spec (x :: t)
      rw [hs] at heq hend hrun
      obtain rfl : rest' = rest := List.append_cancel_left (heq.symm.trans hst.symm)
      refine ⟨⟨⟨x, ?_, hx⟩, hrun⟩, rfl, hend⟩
      cases s with
      | nil =>
        obtain rfl : rest' = x :: t := hst
        simp only [isTermStart, Bool.and_eq_true] at hx
        simp [EndsWord, atWordEnd, hx.1] at hend
      | cons y s => rw [← (List.cons.inj hst).1, List.head?_cons, Option.mem_some]
  · rintro ⟨⟨⟨x, hx, hstart⟩, hrun⟩, rfl, hend⟩
    refine ⟨?_, rfl⟩
    cases s with
    | nil => simp at hx
    | cons y s =>
      obtain rfl : y = x := by simpa using hx
      rw [List.cons_append, term, if_pos hstart, ← List.cons_append, termRun_append hrun hend]

theorem exists_term {t : Text} (h : ∃ x ∈ t.head?, isTermStart x) :
    ∃ raw rest, IsTerm raw ∧ t = raw ++ rest ∧ EndsWord raw rest := by
  obtain ⟨x, hx, hstart⟩ := h
  obtain ⟨t, rfl⟩ := List.head?_eq_some_iff.mp hx
  have hterm : term (x :: t) = some (termRun (x :: t)) := if_pos hstart
  exact ⟨_, _, split_term_iff.mp (congrArg (Option.map _) hterm)⟩

theorem split_wordTail_iff {t s rest : Text} :
    split wordTail t = some (s, rest) ↔ termRun s = s ∧ t = s ++ rest ∧ EndsWord s rest := by
  rw [split_eq_some_iff Token.wordTail_takes.front, wordTail, Option.some.injEq]
  constructor
  · rintro ⟨rfl, ht⟩
    obtain ⟨rest', heq, hend, hrun⟩ := termRun_spec t
    obtain rfl : rest' = rest := List.append_cancel_left (heq.symm.trans ht)
    exact ⟨hrun, ht, hend⟩
  · rintro ⟨hrun, rfl, hend⟩
    exact ⟨termRun_append hrun hend, rfl⟩

theorem split_andThen (take next : Text → Option Text) (t : Text) :
    split (andThen take next) t = (split take t).bind fun first =>
      (split next first.2).map fun second => (first.1 ++ second.1, second.2) := by
  simp only [split, andThen]
  cases take t with
  | none => rfl
  | some s => simp [Function.comp_def]

theorem split_phrase_iff {t s rest : Text} :
    split phrase t = some (s, rest) ↔ IsPhrase s ∧ t = s ++ rest ∧ EndsWord s rest := by
  have hends : ∀ {body tail : Text}, IsBody '"' body →
      (EndsWord ('"' :: (body ++ '"' :: tail)) rest ↔ EndsWord tail rest) := by
    intro body tail hbody
    simp only [EndsWord]
    rw [dangling_cons (by decide), dangling_append hbody.2, dangling_cons (by decide)]
  simp only [phrase, split_andThen, Option.bind_eq_some_iff, Option.map_eq_some_iff, Prod.exists,
    Prod.mk.injEq, split_literal_iff, split_body_iff (show '"' ≠ '\\' by decide),
    split_wordTail_iff]
  constructor
  · rintro ⟨_, _, ⟨rfl, rfl⟩, _, _, ⟨body, _, ⟨hbody, after, rfl, rfl⟩, _, _, hclose, rfl, rfl⟩,
      rfl, rfl⟩
    obtain ⟨_, _, ⟨rfl, hafter⟩, tail, rest, ⟨htail, rfl, hend⟩, rfl, rfl⟩ := hclose
    obtain rfl : after = tail ++ rest := (List.cons.inj hafter).2
    exact ⟨⟨body, tail, rfl, hbody, htail⟩, by simp, (hends hbody).mpr hend⟩
  · rintro ⟨⟨body, tail, rfl, hbody, htail⟩, rfl, hend⟩
    have htext : '"' :: (body ++ '"' :: tail) ++ rest = '"' :: (body ++ '"' :: (tail ++ rest)) := by
      simp
    exact ⟨_, _, ⟨rfl, htext⟩, _, _, ⟨body, _, ⟨hbody, _, rfl, rfl⟩, _, _,
      ⟨_, _, ⟨rfl, rfl⟩, tail, rest, ⟨htail, rfl, (hends hbody).mp hend⟩, rfl, rfl⟩, rfl, rfl⟩, rfl,
      rfl⟩

theorem split_word_iff {t s rest : Text} :
    split word t = some (s, rest) ↔ IsWord s ∧ t = s ++ rest ∧ EndsWord s rest := by
  have hsplit : split word t = (split phrase t).or (split term t) := by
    simp only [split, word, firstOf, Option.or_none, Option.map_or]
  rw [hsplit, Option.or_eq_some_iff, split_phrase_iff, split_term_iff]
  constructor
  · rintro (⟨hs, ht, hend⟩ | ⟨-, hs, ht, hend⟩)
    · exact ⟨.inl hs, ht, hend⟩
    · exact ⟨.inr hs, ht, hend⟩
  · rintro ⟨hs | hs, rfl, hend⟩
    · exact .inl ⟨hs, rfl, hend⟩
    · refine .inr ⟨?_, hs, rfl, hend⟩
      -- No phrase starts with a character that starts a term.
      rw [Option.eq_none_iff_forall_ne_some]
      rintro ⟨s', rest'⟩ hphrase
      obtain ⟨⟨body, tail, rfl, -, -⟩, ht, -⟩ := split_phrase_iff.mp hphrase
      obtain ⟨⟨x, hx, hstart⟩, -⟩ := hs
      cases s with
      | nil => simp at hx
      | cons y s =>
        obtain rfl : y = x := by simpa using hx
        rw [(List.cons.inj ht).1, not_isTermStart_quote] at hstart
        exact absurd hstart (by simp)

theorem split_whitespace_iff {t s rest : Text} :
    split whitespace t = some (s, rest) ↔
      Blank s ∧ s ≠ [] ∧ t = s ++ rest ∧ Trimmed rest := by
  rw [split_eq_some_iff Token.whitespace_takes.front]
  constructor
  · rintro ⟨hs, ht⟩
    cases t with
    | nil => simp [whitespace] at hs
    | cons x t =>
      simp only [whitespace, blanks, Option.ite_none_right_eq_some, Option.some.injEq] at hs
      obtain ⟨hx, hs⟩ := hs
      obtain ⟨b, hb, heq⟩ := exists_blank (x :: t)
      obtain rfl : b = s := by
        rw [← hs, heq, takeWhile_append hb (trimmed_dropWhile _)]
      obtain rfl := List.append_cancel_left (ht.symm.trans heq)
      refine ⟨hb, ?_, ht, trimmed_dropWhile _⟩
      rintro rfl
      simp [hx] at hs
  · rintro ⟨hb, hne, rfl, ht⟩
    refine ⟨?_, rfl⟩
    have htake := takeWhile_append hb ht
    cases s with
    | nil => exact absurd rfl hne
    | cons x s => rw [List.cons_append, whitespace, if_pos (hb x (by simp)), blanks,
        ← List.cons_append, htake]

theorem split_blanks_iff {t s rest : Text} :
    split blanks t = some (s, rest) ↔ Blank s ∧ t = s ++ rest ∧ Trimmed rest := by
  rw [split_eq_some_iff Token.spaces_takes.front, blanks, Option.some.injEq]
  constructor
  · rintro ⟨rfl, ht⟩
    obtain ⟨b, hb, heq⟩ := exists_blank t
    have htake : t.takeWhile isSpace = b := by
      rw [heq, takeWhile_append hb (trimmed_dropWhile t)]
    rw [htake] at ht ⊢
    obtain rfl := List.append_cancel_left (ht.symm.trans heq)
    exact ⟨hb, ht, trimmed_dropWhile t⟩
  · rintro ⟨hb, rfl, ht⟩
    exact ⟨takeWhile_append hb ht, rfl⟩

theorem split_rangeJoiner_iff {t s rest : Text} :
    split rangeJoiner t = some (s, rest) ↔ ∃ b b', Blank b ∧ b ≠ [] ∧ Blank b' ∧ b' ≠ [] ∧
      s = b ++ ("TO" ++ b') ∧ t = b ++ ("TO" ++ (b' ++ rest)) ∧ Trimmed rest := by
  simp only [rangeJoiner, split_andThen, Option.bind_eq_some_iff, Option.map_eq_some_iff,
    Prod.exists, Prod.mk.injEq, split_literal_iff, split_whitespace_iff]
  constructor
  · rintro ⟨b, _, ⟨hb, hne, rfl, -⟩, _, _, ⟨_, _, ⟨rfl, rfl⟩, b', _, ⟨hb', hne', rfl, ht⟩, rfl, rfl⟩,
      rfl, rfl⟩
    exact ⟨b, b', hb, hne, hb', hne', rfl, rfl, ht⟩
  · rintro ⟨b, b', hb, hne, hb', hne', rfl, rfl, ht⟩
    refine ⟨b, _, ⟨hb, hne, rfl, ?_⟩, _, _,
      ⟨_, _, ⟨rfl, rfl⟩, b', _, ⟨hb', hne', rfl, ht⟩, rfl, rfl⟩, rfl, rfl⟩
    intro x hx
    obtain rfl : 'T' = x := by simpa using hx
    decide

/-! ## Operators, brackets and comparisons -/

theorem split_firstOf_cons (take : Text → Option Text) (others : List (Text → Option Text))
    (t : Text) : split (firstOf (take :: others)) t = (split take t).or (split (firstOf others) t) := by
  simp only [split, firstOf, Option.map_or]

theorem split_firstOf_nil (t : Text) : split (firstOf []) t = none := rfl

theorem split_operator_iff {t s rest : Text} :
    split operator t = some (s, rest) ↔
      ∃ op : Operator, op ≠ .either ∧ s = op.text ∧ t = op.text ++ rest ∧ atWordEnd rest := by
  simp only [operator, split_firstOf_cons, split_firstOf_nil, Option.or_none, Option.or_eq_some_iff,
    split_keyword_iff, Option.eq_none_iff_forall_ne_some, Prod.forall, ne_eq]
  constructor
  · rintro (⟨rfl, rfl, hend⟩ | ⟨-, ⟨rfl, rfl, hend⟩ | ⟨-, rfl, rfl, hend⟩⟩)
    · exact ⟨.and, by simp, rfl, rfl, hend⟩
    · exact ⟨.or, by simp, rfl, rfl, hend⟩
    · exact ⟨.not, by simp, rfl, rfl, hend⟩
  · rintro ⟨op, hop, rfl, rfl, hend⟩
    cases op with
    | and => exact .inl ⟨rfl, rfl, hend⟩
    | or => exact .inr ⟨by simp [Operator.text], .inl ⟨rfl, rfl, hend⟩⟩
    | not => exact .inr ⟨by simp [Operator.text], .inr ⟨by simp [Operator.text], rfl, rfl, hend⟩⟩
    | either => exact absurd rfl hop

theorem split_rangeOpening_iff {t s rest : Text} :
    split rangeOpening t = some (s, rest) ↔
      ∃ edge : Edge, s = edge.opening ∧ t = edge.opening ++ rest := by
  simp only [rangeOpening, split_firstOf_cons, split_firstOf_nil, Option.or_none,
    Option.or_eq_some_iff, split_literal_iff, Option.eq_none_iff_forall_ne_some, Prod.forall, ne_eq]
  constructor
  · rintro (⟨rfl, rfl⟩ | ⟨-, rfl, rfl⟩)
    · exact ⟨.inclusive, rfl, rfl⟩
    · exact ⟨.exclusive, rfl, rfl⟩
  · rintro ⟨edge, rfl, rfl⟩
    cases edge with
    | inclusive => exact .inl ⟨rfl, rfl⟩
    | exclusive => exact .inr ⟨by simp [Edge.opening], rfl, rfl⟩

theorem split_rangeClosing_iff {t s rest : Text} :
    split rangeClosing t = some (s, rest) ↔
      ∃ edge : Edge, s = edge.closing ∧ t = edge.closing ++ rest := by
  simp only [rangeClosing, split_firstOf_cons, split_firstOf_nil, Option.or_none,
    Option.or_eq_some_iff, split_literal_iff, Option.eq_none_iff_forall_ne_some, Prod.forall, ne_eq]
  constructor
  · rintro (⟨rfl, rfl⟩ | ⟨-, rfl, rfl⟩)
    · exact ⟨.inclusive, rfl, rfl⟩
    · exact ⟨.exclusive, rfl, rfl⟩
  · rintro ⟨edge, rfl, rfl⟩
    cases edge with
    | inclusive => exact .inl ⟨rfl, rfl⟩
    | exclusive => exact .inr ⟨by simp [Edge.closing], rfl, rfl⟩

/-- A comparison with one character does not stand before an equals sign. -/
def Comparable (operand : Comparison) (rest : Text) : Prop :=
  operand = .greater ∨ operand = .less → rest.head? ≠ some '='

theorem split_comparison_iff {t s rest : Text} :
    split comparison t = some (s, rest) ↔
      ∃ operand : Comparison, s = operand.text ∧ t = operand.text ++ rest ∧
        Comparable operand rest := by
  simp only [comparison, split_firstOf_cons, split_firstOf_nil, Option.or_none,
    Option.or_eq_some_iff, split_literal_iff, Option.eq_none_iff_forall_ne_some, Prod.forall, ne_eq,
    Comparable]
  constructor
  · rintro (⟨rfl, rfl⟩ | ⟨h₁, ⟨rfl, rfl⟩ | ⟨h₂, ⟨rfl, rfl⟩ | ⟨-, rfl, rfl⟩⟩⟩)
    · exact ⟨.greaterEqual, rfl, rfl, by simp⟩
    · exact ⟨.lessEqual, rfl, rfl, by simp⟩
    · refine ⟨.greater, rfl, rfl, fun _ heq => ?_⟩
      obtain ⟨after, rfl⟩ := List.head?_eq_some_iff.mp heq
      exact h₁ _ after ⟨rfl, rfl⟩
    · refine ⟨.less, rfl, rfl, fun _ heq => ?_⟩
      obtain ⟨after, rfl⟩ := List.head?_eq_some_iff.mp heq
      exact h₂ _ after ⟨rfl, rfl⟩
  · rintro ⟨operand, rfl, rfl, hrest⟩
    cases operand with
    | greater =>
      refine .inr ⟨?_, .inr ⟨by simp [Comparison.text], .inl ⟨rfl, rfl⟩⟩⟩
      rintro _ after ⟨-, heq⟩
      obtain rfl : rest = '=' :: after := (List.cons.inj heq).2
      exact hrest (.inl rfl) rfl
    | greaterEqual => exact .inl ⟨rfl, rfl⟩
    | less =>
      refine .inr ⟨by simp [Comparison.text], .inr ⟨?_, .inr ⟨by simp [Comparison.text], rfl, rfl⟩⟩⟩
      rintro _ after ⟨-, heq⟩
      obtain rfl : rest = '=' :: after := (List.cons.inj heq).2
      exact hrest (.inr rfl) rfl
    | lessEqual => exact .inr ⟨by simp [Comparison.text], .inl ⟨rfl, rfl⟩⟩

end Lexeme

end SearchQuery
