import SearchQuery.Grammar
import SearchQuery.Proofs.Reader

/-! # Lexemes

Each reader of tokens is tied to a function on texts, so that later proofs need no cursor for it.
-/

namespace SearchQuery

/-! ## What a token takes -/

namespace Lexeme

def literal (token t : Text) : Option Text := if token.isPrefixOf t then some token else none

def keyword (token t : Text) : Option Text :=
  if token.isPrefixOf t && atWordEnd (t.drop token.length) then some token else none

/-- The first of the lexemes that is there. -/
def firstOf : List (Text → Option Text) → Text → Option Text
  | [], _ => none
  | take :: others, t => (take t).or (firstOf others t)

/-- Two lexemes, the second directly after the first. -/
def andThen (take next : Text → Option Text) (t : Text) : Option Text :=
  (take t).bind fun s => (next (t.drop s.length)).map (s ++ ·)

def blanks (t : Text) : Option Text := some (t.takeWhile isSpace)

def whitespace : Text → Option Text
  | [] => none
  | first :: rest => if isSpace first then blanks (first :: rest) else none

def term : Text → Option Text
  | [] => none
  | first :: rest => if isTermStart first then some (termRun (first :: rest)) else none

def body (close : Char) (t : Text) : Option Text := (t.delimited close).map Prod.fst

def wordTail (t : Text) : Option Text := some (termRun t)

def phrase : Text → Option Text :=
  andThen (literal "\"") (andThen (body '"') (andThen (literal "\"") wordTail))

def word : Text → Option Text := firstOf [phrase, term]

def operator : Text → Option Text := firstOf [keyword "AND", keyword "OR", keyword "NOT"]

def rangeJoiner : Text → Option Text := andThen whitespace (andThen (literal "TO") whitespace)

def rangeOpening : Text → Option Text := firstOf [literal "[", literal "\x7b"]

def rangeClosing : Text → Option Text := firstOf [literal "]", literal "\x7d"]

def comparison : Text → Option Text :=
  firstOf [literal ">=", literal "<=", literal ">", literal "<"]

end Lexeme

/-! ## Readers of tokens -/

/-- The reader makes a leaf of what the lexeme takes, which is the front of the text. -/
structure Reader.Takes (read : Reader Tree) (rule : Rule) (take : Text → Option Text) : Prop where
  result (c : Cursor) : (read c).result =
    (take c.rest).map fun s => (⟨rule, c.offset, s, []⟩, c.past s)
  front {t s : Text} (h : take t = some s) : s <+: t

namespace Lexeme

theorem escapedRun_front (inClass : Char → Bool) (t : Text) : t.escapedRun inClass <+: t := by
  fun_induction Text.escapedRun inClass t with
  | case1 => exact List.prefix_rfl
  | case2 c rest ih => simpa using ih
  | case3 c rest _ _ ih => simpa using ih
  | case4 c rest _ _ => exact List.nil_prefix

theorem termRun_front (t : Text) : termRun t <+: t := escapedRun_front isTermChar t

theorem andThen_front {take next : Text → Option Text}
    (htake : ∀ {t s : Text}, take t = some s → s <+: t)
    (hnext : ∀ {t s : Text}, next t = some s → s <+: t) {t s : Text}
    (hs : andThen take next t = some s) : s <+: t := by
  simp only [andThen, Option.bind_eq_some_iff, Option.map_eq_some_iff] at hs
  obtain ⟨s₁, h₁, s₂, h₂, rfl⟩ := hs
  obtain ⟨rest, rfl⟩ := htake h₁
  simpa using hnext h₂

end Lexeme

namespace Token

open Reader

theorem literal_takes (token : Text) :
    (literal token).Takes .terminal (Lexeme.literal token) where
  result c := by
    rw [literal, Lexeme.literal]
    split <;> rfl
  front h := by
    simp only [Lexeme.literal, Option.ite_none_right_eq_some, Option.some.injEq] at h
    obtain ⟨hp, rfl⟩ := h
    exact List.isPrefixOf_iff_prefix.mp hp

theorem keyword_takes (token : Text) :
    (keyword token).Takes .terminal (Lexeme.keyword token) where
  result c := by
    rw [keyword, Lexeme.keyword]
    split <;> rfl
  front h := by
    simp only [Lexeme.keyword, Option.ite_none_right_eq_some, Option.some.injEq,
      Bool.and_eq_true] at h
    obtain ⟨⟨hp, -⟩, rfl⟩ := h
    exact List.isPrefixOf_iff_prefix.mp hp

theorem spaces_takes : spaces.Takes .spaces Lexeme.blanks where
  result c := rfl
  front h := by
    obtain rfl := Option.some.inj h
    exact List.takeWhile_prefix isSpace

theorem whitespace_takes : whitespace.Takes .spaces Lexeme.whitespace where
  result c := by
    rw [whitespace]
    cases hrest : c.rest with
    | nil => rfl
    | cons first rest =>
      rw [Lexeme.whitespace]
      by_cases hspace : isSpace first
      · simp only [if_pos hspace]
        rw [spaces_takes.result, hrest]
      · simp only [if_neg hspace]
        rfl
  front {t s} h := by
    cases t with
    | nil => simp [Lexeme.whitespace] at h
    | cons first rest =>
      simp only [Lexeme.whitespace, Option.ite_none_right_eq_some] at h
      exact spaces_takes.front h.2

theorem term_takes : term.Takes .terminal Lexeme.term where
  result c := by
    rw [term]
    cases hrest : c.rest with
    | nil => rfl
    | cons first rest =>
      rw [Lexeme.term]
      by_cases hstart : isTermStart first
      · simp only [if_pos hstart]
        rfl
      · simp only [if_neg hstart]
        rfl
  front {t s} h := by
    cases t with
    | nil => simp [Lexeme.term] at h
    | cons first rest =>
      simp only [Lexeme.term, Option.ite_none_right_eq_some, Option.some.injEq] at h
      rw [← h.2]
      exact Lexeme.termRun_front _

theorem body_takes (close : Char) : (body close).Takes .terminal (Lexeme.body close) where
  result c := by
    rw [body, Lexeme.body]
    split <;> simp_all
  front h := by
    obtain ⟨⟨b, after⟩, hd, rfl⟩ := Option.map_eq_some_iff.mp h
    exact ⟨close :: after, (Text.delimited_eq hd).symm⟩

theorem wordTail_takes : wordTail.Takes .terminal Lexeme.wordTail where
  result c := rfl
  front h := by
    obtain rfl := Option.some.inj h
    exact Lexeme.termRun_front _

end Token

/-! ## Tokens made of tokens -/

theorem Cursor.past_past (c : Cursor) (s s' : Text) : (c.past s).past s' = c.past (s ++ s') := by
  simp [Cursor.past, Nat.add_assoc]

namespace Reader

/-- The reader takes a lexeme and makes no nodes. -/
structure Skips (read : Reader (List Tree)) (take : Text → Option Text) : Prop where
  result (c : Cursor) : (read c).result = (take c.rest).map fun s => ([], c.past s)
  front {t s : Text} (h : take t = some s) : s <+: t

theorem Takes.skip {read : Reader Tree} {rule : Rule} {take : Text → Option Text}
    (h : read.Takes rule take) : (read >>= fun _ => pure []).Skips take where
  result c := by
    rw [result_bind, h.result]
    cases take c.rest <;> rfl
  front := h.front

theorem Takes.andThen {read : Reader Tree} {rule : Rule} {take : Text → Option Text}
    {next : Reader (List Tree)} {takeNext : Text → Option Text} (h : read.Takes rule take)
    (hnext : next.Skips takeNext) :
    (read >>= fun _ => next).Skips (Lexeme.andThen take takeNext) where
  result c := by
    rw [result_bind, h.result, Lexeme.andThen]
    cases take c.rest with
    | none => rfl
    | some s =>
      simp only [Option.map_some, Option.bind_some, hnext.result, Option.map_map]
      congr 1
      funext s'
      simp [Cursor.past_past]
  front hs := Lexeme.andThen_front h.front hnext.front hs

theorem Skips.node {read : Reader (List Tree)} {take : Text → Option Text} (h : read.Skips take)
    (rule : Rule) : (node rule read).Takes rule take where
  result c := by
    rw [result_node, h.result, Option.map_map]
    cases hs : take c.rest with
    | none => rfl
    | some s =>
      obtain ⟨rest, hrest⟩ := h.front hs
      have hslice : c.slice c.offset (c.past s).offset = s := by
        apply Cursor.slice_offset _ rfl
        rw [Cursor.past_rest hrest.symm, hrest]
      simp [hslice]
  front := h.front

theorem takes_firstOf_nil (rule : Rule) : (firstOf []).Takes rule (Lexeme.firstOf []) where
  result _ := rfl
  front h := by simp [Lexeme.firstOf] at h

theorem Takes.firstOf_cons {read : Reader Tree} {rule : Rule} {take : Text → Option Text}
    {others : List (Reader Tree)} {takes : List (Text → Option Text)} (h : read.Takes rule take)
    (hothers : (firstOf others).Takes rule (Lexeme.firstOf takes)) :
    (firstOf (read :: others)).Takes rule (Lexeme.firstOf (take :: takes)) where
  result c := by
    rw [result_firstOf_cons, h.result, hothers.result, Lexeme.firstOf]
    cases take c.rest <;> rfl
  front {t s} hs := by
    rw [Lexeme.firstOf, Option.or_eq_some_iff] at hs
    rcases hs with hs | ⟨-, hs⟩
    · exact h.front hs
    · exact hothers.front hs

theorem Takes.forward {read : Reader Tree} {rule : Rule} {take : Text → Option Text}
    (h : read.Takes rule take) : Forward read := by
  intro c t c' ht
  rw [h.result] at ht
  obtain ⟨s, hs, heq⟩ := Option.map_eq_some_iff.mp ht
  simp only [Prod.mk.injEq] at heq
  rw [← heq.2]
  exact Cursor.reaches_past (h.front hs)

end Reader

namespace Token

open Reader

theorem phrase_takes : phrase.Takes .terminal Lexeme.phrase :=
  Skips.node ((literal_takes _).andThen ((body_takes _).andThen
    ((literal_takes _).andThen wordTail_takes.skip))) .terminal

theorem word_takes : word.Takes .terminal Lexeme.word :=
  phrase_takes.firstOf_cons (term_takes.firstOf_cons (takes_firstOf_nil _))

end Token

namespace Grammar

open Reader Token

theorem boolOperator_takes : boolOperator.Takes .boolOperator Lexeme.operator := by
  have htokens : (firstOf [keyword "AND", keyword "OR", keyword "NOT"]).Takes .terminal
      Lexeme.operator :=
    (keyword_takes _).firstOf_cons ((keyword_takes _).firstOf_cons
      ((keyword_takes _).firstOf_cons (takes_firstOf_nil _)))
  exact htokens.skip.node .boolOperator

theorem orSpace_takes : orSpace.Takes .orSpace Lexeme.whitespace :=
  Skips.node whitespace_takes.skip .orSpace

theorem rangeJoiner_takes : rangeJoiner.Takes .terminal Lexeme.rangeJoiner :=
  Skips.node (whitespace_takes.andThen ((literal_takes _).andThen whitespace_takes.skip)) .terminal

theorem rangeOpening_takes : (oneOf ["[", "\x7b"]).Takes .terminal Lexeme.rangeOpening :=
  (literal_takes _).firstOf_cons ((literal_takes _).firstOf_cons (takes_firstOf_nil _))

theorem rangeClosing_takes : (oneOf ["]", "\x7d"]).Takes .terminal Lexeme.rangeClosing :=
  (literal_takes _).firstOf_cons ((literal_takes _).firstOf_cons (takes_firstOf_nil _))

theorem comparison_takes : (oneOf [">=", "<=", ">", "<"]).Takes .terminal Lexeme.comparison :=
  (literal_takes _).firstOf_cons ((literal_takes _).firstOf_cons
    ((literal_takes _).firstOf_cons ((literal_takes _).firstOf_cons (takes_firstOf_nil _))))

end Grammar

end SearchQuery
