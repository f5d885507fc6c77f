import SearchQuery.Proofs.Peg
import SearchQuery.Proofs.Progress
import SearchQuery.Proofs.Word

/-! # The parser follows its grammar -/

namespace SearchQuery

namespace Peg

/-! ## Lexemes -/

/-- The expression matches what the lexeme takes, and makes no nodes. -/
def Matches (e : Peg) (take : Text → Option Text) : Prop :=
  ∀ c : Cursor, Derives e c ((take c.rest).map fun s => ([], c.past s))

theorem matches_token (t : Text) : Matches (.token t) (Lexeme.literal t) := by
  intro c
  rw [Lexeme.literal]
  split
  · rename_i h
    obtain ⟨rest, hrest⟩ := List.isPrefixOf_iff_prefix.mp h
    rw [Option.map_some, Cursor.past_rest hrest.symm]
    exact .token hrest.symm
  · rename_i h
    exact .tokenFail (fun hp => h (List.isPrefixOf_iff_prefix.mpr hp))

theorem matches_seq_nil : Matches (.seq []) (fun _ => some []) := by
  intro c
  simpa [Cursor.past] using Derives.seqNil

theorem Matches.seq_cons {e : Peg} {es : List Peg} {take next : Text → Option Text}
    (h : Matches e take) (hnext : Matches (.seq es) next) :
    Matches (.seq (e :: es)) (Lexeme.andThen take next) := by
  intro c
  have hseq := (h c).seq_bind fun _ c' _ => hnext c'
  rw [Lexeme.andThen]
  cases hs : take c.rest with
  | none => simpa [hs] using hseq
  | some s =>
    rw [hs] at hseq
    simpa [Cursor.past, Function.comp_def, Nat.add_assoc] using hseq

theorem Matches.seq_singleton {e : Peg} {take : Text → Option Text} (h : Matches e take) :
    Matches (.seq [e]) take := by
  intro c
  have hc := h.seq_cons matches_seq_nil c
  rw [Lexeme.andThen] at hc
  cases hs : take c.rest <;> simpa [hs] using hc

theorem matches_choice_nil : Matches (.choice []) (Lexeme.firstOf []) := fun _ => .choiceNil

theorem Matches.choice_cons {e : Peg} {es : List Peg} {take : Text → Option Text}
    {takes : List (Text → Option Text)} (h : Matches e take)
    (hothers : Matches (.choice es) (Lexeme.firstOf takes)) :
    Matches (.choice (e :: es)) (Lexeme.firstOf (take :: takes)) := by
  intro c
  rw [Lexeme.firstOf, Option.map_or]
  exact (h c).choice_or (hothers c)

theorem matches_star {e : Peg} {take : Text → Option Text} {run : Text → Text} (h : Matches e take)
    (hrun : ∀ t, take t = none ∧ run t = [] ∨
      ∃ s, s ≠ [] ∧ s <+: t ∧ take t = some s ∧ run t = s ++ run (t.drop s.length)) :
    Matches (.star e) (fun t => some (run t)) := by
  intro c
  induction hn : c.rest.length using Nat.strongRecOn generalizing c with
  | _ n ih =>
    have hc := h c
    rcases hrun c.rest with ⟨hs, hstop⟩ | ⟨s, hne, hfront, hs, hmore⟩
    · rw [hs] at hc
      simpa [hstop, Cursor.past] using Derives.starStop hc
    · rw [hs] at hc
      have hpos := List.length_pos_iff.mpr hne
      have hle := hfront.length_le
      have hlt : (c.past s).rest.length < n := by
        simp only [Cursor.past, List.length_drop]
        omega
      have hstar := Derives.starMore hc (ih _ hlt (c.past s) rfl)
      rw [Cursor.past_past, show (c.past s).rest = c.rest.drop s.length from rfl, ← hmore] at hstar
      exact hstar

/-- One character of a class. -/
def takeOne (inClass : Char → Bool) : Text → Option Text
  | [] => none
  | x :: _ => if inClass x then some [x] else none

theorem matches_one (inClass : Char → Bool) : Matches (.one inClass) (takeOne inClass) := by
  rintro ⟨offset, rest⟩
  cases rest with
  | nil => exact .oneFail (by simp)
  | cons x rest =>
    simp only [takeOne]
    split
    · rename_i hx
      exact .one rfl hx
    · rename_i hx
      refine .oneFail ?_
      rintro y rest' heq
      rw [← (List.cons.inj heq).1]
      exact hx

theorem matches_blanks : Matches (.star (.one isSpace)) Lexeme.blanks := by
  apply matches_star (matches_one isSpace)
  intro t
  cases t with
  | nil => exact .inl ⟨rfl, rfl⟩
  | cons x rest =>
    by_cases hx : isSpace x
    · refine .inr ⟨[x], by simp, ⟨rest, rfl⟩, by simp [takeOne, hx], ?_⟩
      simp [List.takeWhile_cons_of_pos hx]
    · exact .inl ⟨by simp [takeOne, hx], by simp [hx]⟩

theorem matches_bareWhitespace : Matches bareWhitespace Lexeme.whitespace := by
  have heq : Lexeme.andThen (takeOne isSpace) Lexeme.blanks = Lexeme.whitespace := by
    funext t
    cases t with
    | nil => rfl
    | cons x rest =>
      by_cases hx : isSpace x
      · simp [Lexeme.andThen, takeOne, Lexeme.whitespace, Lexeme.blanks, hx]
      · simp [Lexeme.andThen, takeOne, Lexeme.whitespace, hx]
  exact heq ▸ (matches_one isSpace).seq_cons matches_blanks.seq_singleton

theorem Matches.notAt {e : Peg} {take : Text → Option Text} (h : Matches e take) :
    Matches (.notAt e) (fun t => if take t = none then some [] else none) := by
  intro c
  have hc := h c
  cases hs : take c.rest with
  | none =>
    rw [hs] at hc
    simpa [hs, Cursor.past] using Derives.notAt hc
  | some s =>
    rw [hs] at hc
    simpa [hs] using Derives.notAtFail hc

theorem matches_bareKeyword (token : Text) : Matches (bareKeyword token) (Lexeme.keyword token) := by
  have heq : Lexeme.andThen (Lexeme.literal token)
      (fun t => if takeOne isTermChar t = none then some [] else none) = Lexeme.keyword token := by
    funext t
    by_cases hp : token.isPrefixOf t
    · rw [Lexeme.andThen, Lexeme.literal, if_pos hp, Lexeme.keyword, hp]
      cases hd : t.drop token.length with
      | nil => simp [hd, takeOne, atWordEnd]
      | cons x rest => by_cases hx : isTermChar x <;> simp [hd, takeOne, atWordEnd, hx]
    · rw [Lexeme.andThen, Lexeme.literal, if_neg hp, Lexeme.keyword, if_neg (by simp [hp])]
      rfl
  exact heq ▸ (matches_token token).seq_cons (matches_one isTermChar).notAt.seq_singleton

/-! ## Escapes -/

/-- A character after a backslash, with it, or else one character of a class. -/
def takeEscaped (inClass : Char → Bool) : Text → Option Text :=
  Lexeme.firstOf [Lexeme.andThen (Lexeme.literal "\\") (takeOne fun _ => true), takeOne inClass]

theorem takeEscaped_pair (inClass : Char → Bool) (x : Char) (rest : Text) :
    takeEscaped inClass ('\\' :: x :: rest) = some ['\\', x] := by
  simp [takeEscaped, Lexeme.firstOf, Lexeme.andThen, Lexeme.literal, takeOne]

theorem takeEscaped_one (inClass : Char → Bool) (x : Char) (rest : Text)
    (h : ∀ y rest', x = '\\' → rest = y :: rest' → False) :
    takeEscaped inClass (x :: rest) = if inClass x then some [x] else none := by
  by_cases hx : x = '\\'
  · cases rest with
    | nil => simp [takeEscaped, Lexeme.firstOf, Lexeme.andThen, Lexeme.literal, takeOne, hx]
    | cons y rest' => exact absurd rfl (h y rest' hx)
  · have hx' : ¬ '\\' = x := fun heq => hx heq.symm
    simp [takeEscaped, Lexeme.firstOf, Lexeme.andThen, Lexeme.literal, takeOne, hx']

theorem matches_takeEscaped (inClass : Char → Bool) :
    Matches (.choice [.seq [.token "\\", any], .one inClass]) (takeEscaped inClass) :=
  ((matches_token _).seq_cons (matches_one _).seq_singleton).choice_cons
    ((matches_one inClass).choice_cons matches_choice_nil)

theorem matches_escaped (inClass : Char → Bool) :
    Matches (escaped inClass) (fun t => some (t.escapedRun inClass)) := by
  apply matches_star (matches_takeEscaped inClass)
  intro t
  fun_cases Text.escapedRun inClass t with
  | case1 => exact .inl ⟨rfl, rfl⟩
  | case2 x rest =>
    exact .inr ⟨['\\', x], by simp, ⟨rest, rfl⟩, takeEscaped_pair inClass x rest, by simp⟩
  | case3 x rest h hx =>
    exact .inr ⟨[x], by simp, ⟨rest, rfl⟩, by simp [takeEscaped_one inClass x rest h, hx], by simp⟩
  | case4 x rest h hx => exact .inl ⟨by simp [takeEscaped_one inClass x rest h, hx], rfl⟩

/-! ## Phrases and terms -/

theorem andThen_body (close : Char) (next : Text → Option Text) :
    Lexeme.andThen (Lexeme.body close) (Lexeme.andThen (Lexeme.literal [close]) next) =
      Lexeme.andThen (fun t => some (t.escapedRun (· ≠ close)))
        (Lexeme.andThen (Lexeme.literal [close]) next) := by
  funext t
  cases hd : t.delimited close with
  | none =>
    have hrun := Text.escapedRun_of_not_delimited hd
    simp only [Lexeme.andThen, Lexeme.body, hd, hrun, Option.map_none, Option.bind_none,
      Option.bind_some, List.drop_length]
    rfl
  | some found =>
    obtain ⟨body, after⟩ := found
    simp only [Lexeme.andThen, Lexeme.body, hd, Text.escapedRun_of_delimited hd, Option.map_some]

theorem matches_phrase : Matches (.seq [.token "\"", escaped (· ≠ '"'), .token "\"",
    escaped isTermChar]) Lexeme.phrase := by
  rw [Lexeme.phrase, show ("\"" : Text) = ['"'] from rfl, andThen_body]
  exact (matches_token _).seq_cons ((matches_escaped _).seq_cons
    ((matches_token _).seq_cons (matches_escaped isTermChar).seq_singleton))

theorem matches_term : Matches (.seq [.notAt (.token "/"),
    .choice [.seq [.token "\\", any], .one isTermChar], escaped isTermChar]) Lexeme.term := by
  have heq : Lexeme.andThen (fun t => if Lexeme.literal "/" t = none then some [] else none)
      (Lexeme.andThen (takeEscaped isTermChar) (fun t => some (t.escapedRun isTermChar))) =
      Lexeme.term := by
    funext t
    have hslash : isTermStart '/' = false := by decide
    have hback : isTermStart '\\' = true := by decide
    fun_cases Text.escapedRun isTermChar t with
    | case1 => rfl
    | case2 x rest =>
      simp [Lexeme.andThen, Lexeme.literal, Lexeme.term, termRun, hback, takeEscaped_pair,
        Text.escapedRun]
    | case3 x rest h hx =>
      by_cases hx' : x = '/'
      · subst hx'
        simp [Lexeme.andThen, Lexeme.literal, Lexeme.term, hslash]
      · have hstart : isTermStart x = true := by simp [isTermStart, hx, hx']
        have hne : ¬ '/' = x := fun heq => hx' heq.symm
        simp [Lexeme.andThen, Lexeme.literal, Lexeme.term, termRun, hstart, hne,
          takeEscaped_one _ x rest h, hx, Text.escapedRun.eq_3 _ x rest h]
    | case4 x rest h hx =>
      have hstart : isTermStart x = false := by simp [isTermStart, hx]
      by_cases hx' : '/' = x
      · subst hx'
        simp [Lexeme.andThen, Lexeme.literal, Lexeme.term, hslash]
      · simp [Lexeme.andThen, Lexeme.literal, Lexeme.term, hstart, hx',
          takeEscaped_one _ x rest h, hx]
  rw [← heq]
  exact (matches_token _).notAt.seq_cons
    ((matches_takeEscaped _).seq_cons (matches_escaped _).seq_singleton)

/-! ## Readers of nodes -/

open Reader

/-- Wherever fewer than `n` characters are left, the expression derives the node that is read. -/
def Realizes (n : Nat) (e : Peg) (read : Reader Tree) : Prop :=
  ∀ c, c.rest.length < n → Derives e c ((read c).result.map fun found => ([found.1], found.2))

/-- The same for a reader of several nodes. -/
def RealizesAll (n : Nat) (e : Peg) (read : Reader (List Tree)) : Prop :=
  ∀ c, c.rest.length < n → Derives e c (read c).result

theorem Matches.leaf {e : Peg} {take : Text → Option Text} {read : Reader Tree} {rule : Rule}
    (h : Matches e take) (hread : read.Takes rule take) (n : Nat) :
    Realizes n (.leaf rule e) read := by
  intro c _
  have hc := h c
  rw [hread.result]
  cases hs : take c.rest with
  | none =>
    rw [hs] at hc
    exact .leafFail hc
  | some s =>
    rw [hs] at hc
    obtain ⟨rest, hrest⟩ := hread.front hs
    refine .leaf hc ?_
    change c.rest = s ++ (c.past s).rest
    rw [Cursor.past_rest hrest.symm, hrest]

/-- Reads a node in front of other nodes. -/
def prepend (read : Reader Tree) (next : Reader (List Tree)) : Reader (List Tree) := do
  let first ← read
  let later ← next
  return first :: later

theorem result_prepend (read : Reader Tree) (next : Reader (List Tree)) (c : Cursor) :
    (prepend read next c).result = (read c).result.bind fun found =>
      (next found.2).result.map fun later => (found.1 :: later.1, later.2) := by
  simp only [prepend, result_bind, result_pure, Option.map_eq_bind]
  rfl

theorem result_prepend_bind (read : Reader Tree) (next : Reader (List Tree)) (c : Cursor) :
    (prepend read next c).result = (read c).result.bind fun found =>
      (next found.2).result.bind fun later => some (found.1 :: later.1, later.2) := by
  simp only [result_prepend, Option.map_eq_bind]
  rfl

theorem realizesAll_nil (n : Nat) : RealizesAll n (.seq []) (pure []) := fun _ _ => .seqNil

theorem derives_prepend {n : Nat} {e : Peg} {es : List Peg} {read : Reader Tree}
    {next : Reader (List Tree)} (c : Cursor)
    (h : Derives e c ((read c).result.map fun found => ([found.1], found.2)))
    (hshort : ∀ t c', (read c).result = some (t, c') → c'.rest.length < n)
    (hall : RealizesAll n (.seq es) next) :
    Derives (.seq (e :: es)) c (prepend read next c).result := by
  have hnext : ∀ ts c', ((read c).result.map fun found => ([found.1], found.2)) = some (ts, c') →
      Derives (.seq es) c' (next c').result := by
    intro ts c' hc'
    obtain ⟨⟨t, c₁⟩, ht, heq⟩ := Option.map_eq_some_iff.mp hc'
    obtain ⟨rfl, rfl⟩ := Prod.mk.inj heq
    exact hall c₁ (hshort t c₁ ht)
  have hseq := h.seq_bind hnext
  rw [Option.bind_map] at hseq
  rw [result_prepend]
  exact hseq

theorem Realizes.cons {n : Nat} {e : Peg} {es : List Peg} {read : Reader Tree}
    {next : Reader (List Tree)} (h : Realizes n e read) (hf : Forward read)
    (hall : RealizesAll n (.seq es) next) : RealizesAll n (.seq (e :: es)) (prepend read next) := by
  intro c hc
  refine derives_prepend c (h c hc) ?_ hall
  intro t c' ht
  exact Nat.lt_of_le_of_lt (hf c t c' ht).length_le hc

/-- After a reader that takes something, the other parts are read from shorter texts. -/
theorem Realizes.cons_advancing {n : Nat} {e : Peg} {es : List Peg} {read : Reader Tree}
    {next : Reader (List Tree)} (h : Realizes (n + 1) e read) (ha : Advances read)
    (hall : RealizesAll n (.seq es) next) :
    RealizesAll (n + 1) (.seq (e :: es)) (prepend read next) := by
  intro c hc
  refine derives_prepend c (h c hc) ?_ hall
  intro t c' ht
  have := (ha c t c' ht).2
  omega

theorem RealizesAll.node {n : Nat} {e : Peg} {read children : Reader (List Tree)} {rule : Rule}
    (h : RealizesAll n e read) (hf : Forward (Reader.node rule children))
    (hread : ∀ c, (children c).result = (read c).result) :
    Realizes n (.node rule e) (Reader.node rule children) := by
  intro c hc
  have hall := h c hc
  rw [← hread] at hall
  cases hr : (children c).result with
  | none =>
    rw [hr] at hall
    simpa [hr] using Derives.nodeFail hall
  | some found =>
    rw [hr] at hall
    have hnode : (Reader.node rule children c).result =
        some (⟨rule, c.offset, c.slice c.offset found.2.offset, found.1⟩, found.2) := by
      simp [hr]
    obtain ⟨taken, hrest, hoff⟩ := hf c _ _ hnode
    rw [hnode, Cursor.slice_offset hrest hoff]
    exact .node hall hrest

theorem realizes_choice_nil (n : Nat) : Realizes n (.choice []) (firstOf []) :=
  fun _ _ => .choiceNil

theorem Realizes.choice_cons {n : Nat} {e : Peg} {es : List Peg} {read : Reader Tree}
    {others : List (Reader Tree)} (h : Realizes n e read)
    (hothers : Realizes n (.choice es) (firstOf others)) :
    Realizes n (.choice (e :: es)) (firstOf (read :: others)) := by
  intro c hc
  rw [result_firstOf_cons, Option.map_or]
  exact (h c hc).choice_or (hothers c hc)

theorem Realizes.ref {n : Nat} {p : Production} {read : Reader Tree} (h : Realizes n p.rule read) :
    Realizes n (.ref p) read := fun c hc => .ref (h c hc)

/-! ## Productions without conditions inside -/

open Token Grammar

theorem realizes_literal (n : Nat) (token : Text) :
    Realizes n (Peg.literal token) (Token.literal token) :=
  (matches_token token).leaf (literal_takes token) n

theorem realizes_spaces (n : Nat) : Realizes n Peg.spaces Token.spaces :=
  matches_blanks.leaf spaces_takes n

theorem realizes_phrase (n : Nat) : Realizes n (.ref .phrase) phrase :=
  (matches_phrase.leaf phrase_takes n).ref

theorem realizes_term (n : Nat) : Realizes n (.ref .term) Token.term :=
  (matches_term.leaf term_takes n).ref

theorem realizes_word (n : Nat) : Realizes n bound word :=
  (realizes_phrase n).choice_cons ((realizes_term n).choice_cons (realizes_choice_nil n))

theorem realizes_orSpace (n : Nat) : Realizes n (.ref .orSpace) orSpace :=
  (matches_bareWhitespace.leaf orSpace_takes n).ref

theorem realizes_boolOperator (n : Nat) : Realizes n (.leaf .boolOperator
    (.choice [bareKeyword "AND", bareKeyword "OR", bareKeyword "NOT"])) boolOperator := by
  refine Matches.leaf ?_ boolOperator_takes n
  exact (matches_bareKeyword _).choice_cons ((matches_bareKeyword _).choice_cons
    ((matches_bareKeyword _).choice_cons matches_choice_nil))

theorem realizes_spacedOperator (n : Nat) : Realizes n (.ref .spacedOperator) spacedOperator := by
  have hparts := (realizes_spaces n).cons spaces_takes.forward
    ((realizes_boolOperator n).cons boolOperator_takes.forward
      ((realizes_spaces n).cons spaces_takes.forward (realizesAll_nil n)))
  refine (hparts.node spacedOperator_advances.forward fun c => ?_).ref
  simp [result_prepend_bind, Option.bind_assoc]

theorem realizes_range (n : Nat) : Realizes n (.ref .range) rangeCondition := by
  have hopening : Realizes n (.leaf .terminal (.choice [.token "[", .token "\x7b"]))
      (oneOf ["[", "\x7b"]) :=
    ((matches_token _).choice_cons ((matches_token _).choice_cons matches_choice_nil)).leaf
      rangeOpening_takes n
  have hclosing : Realizes n (.leaf .terminal (.choice [.token "]", .token "\x7d"]))
      (oneOf ["]", "\x7d"]) :=
    ((matches_token _).choice_cons ((matches_token _).choice_cons matches_choice_nil)).leaf
      rangeClosing_takes n
  have hjoiner : Realizes n (.leaf .terminal (.seq [bareWhitespace, .token "TO", bareWhitespace]))
      rangeJoiner :=
    (matches_bareWhitespace.seq_cons ((matches_token _).seq_cons
      matches_bareWhitespace.seq_singleton)).leaf rangeJoiner_takes n
  have hparts := hopening.cons rangeOpening_takes.forward
    ((realizes_spaces n).cons spaces_takes.forward
    ((realizes_word n).cons word_takes.forward
    (hjoiner.cons rangeJoiner_takes.forward
    ((realizes_word n).cons word_takes.forward
    ((realizes_spaces n).cons spaces_takes.forward
    (hclosing.cons rangeClosing_takes.forward (realizesAll_nil n)))))))
  refine (hparts.node rangeCondition_forward fun c => ?_).ref
  simp [result_prepend_bind, Option.bind_assoc]

theorem realizes_simpleRange (n : Nat) : Realizes n (.ref .simpleRange) simpleRangeCondition := by
  have hoperand : Realizes n
      (.leaf .terminal (.choice [.token ">=", .token "<=", .token ">", .token "<"]))
      (oneOf [">=", "<=", ">", "<"]) :=
    ((matches_token _).choice_cons ((matches_token _).choice_cons ((matches_token _).choice_cons
      ((matches_token _).choice_cons matches_choice_nil)))).leaf comparison_takes n
  have hparts := hoperand.cons comparison_takes.forward
    ((realizes_word n).cons word_takes.forward (realizesAll_nil n))
  refine (hparts.node simpleRangeCondition_forward fun c => ?_).ref
  simp [result_prepend_bind, Option.bind_assoc]

/-- What stands before the next delimiter or, without one, before the end of the text. -/
def run (close : Char) : Reader Tree := fun c =>
  Reader.leaf .terminal (c.rest.escapedRun (· ≠ close)) c

theorem run_takes (close : Char) :
    (run close).Takes .terminal (fun t => some (t.escapedRun (· ≠ close))) where
  result _ := rfl
  front h := by
    obtain rfl := Option.some.inj h
    exact Lexeme.escapedRun_front _ _

theorem realizes_regex (n : Nat) : Realizes n (.ref .regex) regexCondition := by
  have hparts := (realizes_literal n "/").cons (literal_takes _).forward
    (((matches_escaped (· ≠ '/')).leaf (run_takes '/') n).cons (run_takes '/').forward
    ((realizes_literal n "/").cons (literal_takes _).forward (realizesAll_nil n)))
  refine (hparts.node regexCondition_forward fun c => ?_).ref
  -- An expression that is not closed is missed before its body, or after a body that takes it all.
  have hbody : ∀ c : Cursor, (prepend (body '/') (prepend (Token.literal "/") (pure [])) c).result =
      (prepend (run '/') (prepend (Token.literal "/") (pure [])) c).result := by
    intro c
    rw [result_prepend, result_prepend, (body_takes '/').result, (run_takes '/').result,
      Lexeme.body]
    cases hd : c.rest.delimited '/' with
    | none =>
      have hrun := Text.escapedRun_of_not_delimited hd
      simp only [hrun, Option.map_none, Option.bind_none, Option.map_some, Option.bind_some,
        result_prepend, (literal_takes _).result, Cursor.past, List.drop_length]
      rfl
    | some found =>
      obtain ⟨taken, after⟩ := found
      simp only [Text.escapedRun_of_delimited hd, Option.map_some]
  have hall := result_prepend_bind (Token.literal "/")
    (prepend (run '/') (prepend (Token.literal "/") (pure []))) c
  simp only [← hbody] at hall
  rw [hall]
  simp [result_prepend_bind, Option.bind_assoc]

theorem realizes_detached (n : Nat) : Realizes n (.ref .detached) detachedCondition := by
  have hword : RealizesAll n bound (prepend word (pure [])) := by
    intro c hc
    have h := realizes_word n c hc
    rw [result_prepend]
    cases hr : (word c).result <;> simpa [hr] using h
  refine (hword.node detachedCondition_advances.forward fun c => ?_).ref
  simp [result_prepend]

/-! ## Productions with conditions inside -/

theorem Realizes.of_result {n : Nat} {e : Peg} {read read' : Reader Tree} (h : Realizes n e read)
    (heq : ∀ c, (read' c).result = (read c).result) : Realizes n e read' := by
  intro c hc
  rw [heq]
  exact h c hc

theorem firsts_flatMap {α : Type} (ps : List (α × α)) :
    firsts (ps.flatMap fun p => [p.1, p.2]) = ps.map Prod.fst := by
  induction ps with
  | nil => rfl
  | cons p ps ih => simp [firsts, ih]

theorem seconds_flatMap {α : Type} (ps : List (α × α)) :
    seconds (ps.flatMap fun p => [p.1, p.2]) = ps.map Prod.snd := by
  induction ps with
  | nil => rfl
  | cons p ps ih => simp [seconds, ih]

/-- What follows the first condition of a list, again and again. -/
def separated : Peg := .choice [.seq [.ref .spacedOperator, .ref .condition],
  .seq [.ref .orSpace, .ref .condition]]

section

variable {n : Nat} {condition : Reader Tree} (hf : Forward condition)
  (h : Realizes n (.ref .condition) condition)

include hf h

theorem derives_continuation (c : Cursor) (hc : c.rest.length < n) :
    Derives separated c ((continuation condition c).result.map fun found =>
      ([found.1.1, found.1.2], found.2)) := by
  have hcondition := h.cons hf (realizesAll_nil n)
  have hoperator := (realizes_spacedOperator n).cons spacedOperator_advances.forward hcondition c hc
  have hblank := (realizes_orSpace n).cons orSpace_advances.forward hcondition c hc
  have hboth := hoperator.choice_or (hblank.choice_or .choiceNil)
  simp only [result_prepend, result_pure] at hboth
  simp only [continuation, result_firstOf_cons, result_bind, result_pure, result_firstOf_nil]
  simpa [separated, Option.map_or, Option.map_bind, Function.comp_def] using hboth

theorem derives_many (c : Cursor) (hc : c.rest.length < n) :
    ∃ ps c', (many (continuation condition) c).result = some (ps, c') ∧
      Derives (.star separated) c (some (ps.flatMap fun p => [p.1, p.2], c')) := by
  induction hk : c.rest.length using Nat.strongRecOn generalizing c with
  | _ k ih =>
    have hstep := derives_continuation hf h c hc
    rw [result_many]
    cases hr : (continuation condition c).result with
    | none =>
      rw [hr] at hstep
      exact ⟨[], c, rfl, .starStop hstep⟩
    | some found =>
      obtain ⟨p, c₁⟩ := found
      rw [hr] at hstep
      have hlt := (continuation_advances hf c p c₁ hr).2
      obtain ⟨ps, c', hmany, hstar⟩ := ih _ (hk ▸ hlt) c₁ (Nat.lt_trans hlt hc) rfl
      refine ⟨p :: ps, c', ?_, .starMore hstep hstar⟩
      simp only [if_pos hlt, hmany, Option.map_some]

theorem realizes_list : Realizes n (.ref .list) (list condition) := by
  let iterations : Reader (List Tree) := do
    let c ← here
    let later ← many (continuation condition)
    return [iteration c (later.map Prod.fst), iteration c (later.map Prod.snd)]
  have hiterations : RealizesAll n (.seq [.pairs separated]) iterations := by
    intro c hc
    obtain ⟨ps, c', hmany, hstar⟩ := derives_many hf h c hc
    have hpairs := Derives.seqCons (.pairs hstar) .seqNil
    rw [firsts_flatMap, seconds_flatMap] at hpairs
    have hresult : (iterations c).result =
        some ([iteration c (ps.map Prod.fst), iteration c (ps.map Prod.snd)], c') := by
      simp [iterations, hmany]
    rw [hresult]
    exact hpairs
  refine ((h.cons hf hiterations).node (list_forward hf) fun c => ?_).ref
  simp [result_prepend_bind, iterations, Option.bind_assoc]

theorem realizes_parented : Realizes (n + 1) (.ref .parented) (parented condition) := by
  have hrest := (realizes_spaces n).cons spaces_takes.forward
    ((realizes_list hf h).cons (list_forward hf)
    ((realizes_spaces n).cons spaces_takes.forward
    ((realizes_literal n ")").cons (literal_takes _).forward (realizesAll_nil n))))
  have hparts := (realizes_literal (n + 1) "(").cons_advancing (literal_advances (by simp)) hrest
  refine (hparts.node (parented_advances hf).forward fun c => ?_).ref
  simp [result_prepend_bind, Option.bind_assoc]

theorem realizes_longNegation : Realizes (n + 1) (.ref .longNegation) (longNegation condition) := by
  have hblank := matches_bareWhitespace.leaf whitespace_takes n
  have hrest := hblank.cons whitespace_takes.forward (h.cons hf (realizesAll_nil n))
  have hkeyword := (matches_bareKeyword "NOT").leaf (keyword_takes _) (n + 1)
  have hparts := hkeyword.cons_advancing (keyword_advances (by simp)) hrest
  refine (hparts.node (longNegation_advances hf).forward fun c => ?_).ref
  simp [result_prepend_bind, Option.bind_assoc]

theorem realizes_simpleNegation :
    Realizes (n + 1) (.ref .simpleNegation) (simpleNegation condition) := by
  have hparts := (realizes_literal (n + 1) "-").cons_advancing (literal_advances (by simp))
    (h.cons hf (realizesAll_nil n))
  refine (hparts.node (simpleNegation_advances hf).forward fun c => ?_).ref
  simp [result_prepend_bind, Option.bind_assoc]

theorem realizes_simpleMust : Realizes (n + 1) (.ref .simpleMust) (simpleMust condition) := by
  have hparts := (realizes_literal (n + 1) "+").cons_advancing (literal_advances (by simp))
    (h.cons hf (realizesAll_nil n))
  refine (hparts.node (simpleMust_advances hf).forward fun c => ?_).ref
  simp [result_prepend_bind, Option.bind_assoc]

theorem realizes_value : Realizes n (.ref .value) (value condition) := by
  have hparented : Realizes n (.ref .parented) (parented condition) :=
    fun c hc => realizes_parented hf h c (Nat.lt_succ_of_lt hc)
  have hchoice := (realizes_range n).choice_cons ((realizes_simpleRange n).choice_cons
    ((realizes_regex n).choice_cons (hparented.choice_cons
    ((realizes_phrase n).choice_cons ((realizes_term n).choice_cons (realizes_choice_nil n))))))
  refine (hchoice.of_result fun c => ?_).ref
  simp [value, word]

theorem realizes_field : Realizes (n + 1) (.ref .field) (fieldCondition condition) := by
  have hrest := (realizes_literal n ":").cons (literal_takes _).forward
    ((realizes_value hf h).cons (value_forward hf) (realizesAll_nil n))
  have hparts := (realizes_term (n + 1)).cons_advancing term_advances hrest
  refine (hparts.node (fieldCondition_advances hf).forward fun c => ?_).ref
  simp [result_prepend_bind, Option.bind_assoc]

theorem realizes_conditionWith : Realizes (n + 1) (.ref .condition) (conditionWith condition) := by
  refine Realizes.ref ?_
  exact (realizes_parented hf h).choice_cons ((realizes_longNegation hf h).choice_cons
    ((realizes_simpleNegation hf h).choice_cons ((realizes_simpleMust hf h).choice_cons
    ((realizes_field hf h).choice_cons ((realizes_detached (n + 1)).choice_cons
    (realizes_choice_nil (n + 1)))))))

end

/-! ## The whole grammar -/

theorem realizes_condition (n : Nat) : Realizes n (.ref .condition) condition := by
  induction n with
  | zero => exact fun _ hc => absurd hc (Nat.not_lt_zero _)
  | succ n ih =>
    refine (realizes_conditionWith condition_advances.forward ih).of_result fun c => ?_
    rw [condition_eq]

theorem derives_endOfInput (c : Cursor) :
    Derives endOfInput c (if c.rest = [] then some ([], c) else none) := by
  split
  · rename_i hc
    refine .notAt (.oneFail ?_)
    simp [hc]
  · rename_i hc
    obtain ⟨x, rest, hrest⟩ := List.exists_cons_of_ne_nil hc
    exact .notAtFail (.one hrest rfl)

theorem realizes_query (n : Nat) : Realizes n (.ref .query) query := by
  have hend : RealizesAll n (.seq [endOfInput]) (Token.endOfInput >>= fun _ => pure []) := by
    intro c _
    have hseq := (derives_endOfInput c).seq_bind fun _ c' _ => Derives.seqNil (c := c')
    rw [result_bind, result_endOfInput]
    by_cases hc : c.rest = [] <;> simpa [hc] using hseq
  have hlist := realizes_list condition_advances.forward (realizes_condition n)
  have hparts := (realizes_spaces n).cons spaces_takes.forward
    (hlist.cons (list_forward condition_advances.forward)
    ((realizes_spaces n).cons spaces_takes.forward hend))
  refine (hparts.node query_forward fun c => ?_).ref
  simp [result_prepend_bind, Option.bind_assoc]

end Peg

namespace Production

open Grammar Token

/-- The reader of a production. -/
def reader : Production → Reader Tree
  | query => Grammar.query
  | list => Grammar.list Grammar.condition
  | spacedOperator => Grammar.spacedOperator
  | orSpace => Grammar.orSpace
  | condition => Grammar.condition
  | parented => Grammar.parented Grammar.condition
  | longNegation => Grammar.longNegation Grammar.condition
  | simpleNegation => Grammar.simpleNegation Grammar.condition
  | simpleMust => Grammar.simpleMust Grammar.condition
  | field => Grammar.fieldCondition Grammar.condition
  | value => Grammar.value Grammar.condition
  | range => Grammar.rangeCondition
  | simpleRange => Grammar.simpleRangeCondition
  | regex => Grammar.regexCondition
  | detached => Grammar.detachedCondition
  | phrase => Token.phrase
  | term => Token.term

open Peg in
theorem realizes_reader (p : Production) (n : Nat) : Realizes n (.ref p) p.reader := by
  have hf := condition_advances.forward
  have h := realizes_condition n
  cases p with
  | query => exact realizes_query n
  | list => exact realizes_list hf h
  | spacedOperator => exact realizes_spacedOperator n
  | orSpace => exact realizes_orSpace n
  | condition => exact h
  | parented => exact fun c hc => realizes_parented hf h c (Nat.lt_succ_of_lt hc)
  | longNegation => exact fun c hc => realizes_longNegation hf h c (Nat.lt_succ_of_lt hc)
  | simpleNegation => exact fun c hc => realizes_simpleNegation hf h c (Nat.lt_succ_of_lt hc)
  | simpleMust => exact fun c hc => realizes_simpleMust hf h c (Nat.lt_succ_of_lt hc)
  | field => exact fun c hc => realizes_field hf h c (Nat.lt_succ_of_lt hc)
  | value => exact realizes_value hf h
  | range => exact realizes_range n
  | simpleRange => exact realizes_simpleRange n
  | regex => exact realizes_regex n
  | detached => exact realizes_detached n
  | phrase => exact realizes_phrase n
  | term => exact realizes_term n

open Peg in
/-- A production is derived with an outcome exactly if its reader has that outcome. -/
theorem derives_iff_result (p : Production) (c : Cursor) (o : Option (Tree × Cursor)) :
    Derives (.ref p) c (o.map fun found => ([found.1], found.2)) ↔ (p.reader c).result = o := by
  have hread := p.realizes_reader (c.rest.length + 1) c (Nat.lt_succ_self _)
  constructor
  · intro h
    have heq := hread.unique h
    refine Option.map_injective ?_ heq
    rintro ⟨t, c'⟩ ⟨t', c''⟩ hpair
    simpa using hpair
  · rintro rfl
    exact hread

end Production

/-! ## Parse trees -/

open Grammar Reader in
theorem rest_of_query {c c' : Cursor} {tree : Tree} (h : (query c).result = some (tree, c')) :
    c'.rest = [] := by
  simp only [query, result_node, result_bind, result_pure, result_endOfInput,
    Option.map_eq_some_iff, Option.bind_eq_some_iff, Option.ite_none_right_eq_some,
    Option.some.injEq, Prod.mk.injEq] at h
  obtain ⟨-, ⟨-, -, -, -, trailing, -, -, ⟨hend, rfl⟩, rfl⟩, -, rfl⟩ := h
  exact hend

theorem stop_of_query {t : Text} {c : Cursor} {tree : Tree}
    (h : (Grammar.query (Cursor.start t)).result = some (tree, c)) : c = ⟨t.byteSize, []⟩ := by
  have hrest := rest_of_query h
  obtain ⟨taken, htaken, hoff⟩ := Grammar.query_forward _ _ _ h
  rw [hrest, List.append_nil] at htaken
  cases c
  simp_all [Cursor.start]

theorem parseTree_eq_ok_iff (t : Text) (tree : Tree) :
    parseTree t = .ok tree ↔
      (Grammar.query (Cursor.start t)).result = some (tree, ⟨t.byteSize, []⟩) := by
  rw [parseTree]
  split
  · rename_i tree' c hq
    have hresult := congrArg Outcome.result hq
    simp only at hresult
    rw [hresult, stop_of_query hresult]
    simp
  · rename_i attempts hq
    simp [hq]

open Peg in
/-- A text has a parse tree exactly if the grammar derives it for the whole text. Each production has
the outcome that the grammar derives at a cursor, whatever failures are on record. -/
theorem parseTree_follows_grammar :
    (∀ (t : Text) (tree : Tree), parseTree t = .ok tree ↔
      Derives (.ref .query) (Cursor.start t) (some ([tree], ⟨t.byteSize, []⟩))) ∧
    (∀ (p : Production) (c : Cursor) (seen : Furthest) (o : Option (Tree × Cursor)),
      (p.reader.run seen c).2 = o ↔
        Derives (.ref p) c (o.map fun found => ([found.1], found.2))) := by
  constructor
  · intro t tree
    rw [parseTree_eq_ok_iff]
    exact (Production.query.derives_iff_result (Cursor.start t) (some (tree, _))).symm
  · intro p c seen o
    exact (p.derives_iff_result c o).symm

end SearchQuery
