import SearchQuery.Proofs.Recognition

/-! # One record for the whole text

The readers as a parser with a state. A parser that fails stays where it failed; only an attempt goes
back, and what was noted on the way stays in any case.
-/

namespace SearchQuery

/-- Where a parser stands, and the furthest failure so far. -/
structure Parser.State where
  cursor : Cursor
  seen : Furthest

def Parser (α : Type) : Type := Parser.State → Option α × Parser.State

namespace Parser

variable {α β : Type}

instance : Monad Parser where
  pure a := fun s => (some a, s)
  bind parse next := fun s =>
    match parse s with
    | (none, s') => (none, s')
    | (some a, s') => next a s'

def fail : Parser α := fun s => (none, s)

/-- Fails because something else was expected here. -/
def miss (expected : Expected) : Parser α := fun s =>
  (none, ⟨s.cursor, s.seen.note ⟨s.cursor.offset, expected⟩⟩)

def here : Parser Cursor := fun s => (some s.cursor, s)

/-- Goes back to where it started if it fails. -/
def attempt (parse : Parser α) : Parser α := fun s =>
  match parse s with
  | (none, s') => (none, ⟨s.cursor, s'.seen⟩)
  | (some a, s') => (some a, s')

/-- The first of the attempts that does not fail. -/
def firstOf : List (Parser α) → Parser α
  | [] => fail
  | parse :: others => fun s =>
    match attempt parse s with
    | (none, s') => firstOf others s'
    | (some a, s') => (some a, s')

/-- One attempt after the other, until one fails or takes nothing. -/
def many (parse : Parser α) (s : State) : Option (List α) × State :=
  match attempt parse s with
  | (none, s') => (some [], s')
  | (some a, s') =>
    if s'.cursor.rest.length < s.cursor.rest.length then
      match many parse s' with
      | (later, s'') => (later.map (a :: ·), s'')
    else
      (some [a], s')
termination_by s.cursor.rest.length

def node (rule : Rule) (children : Parser (List Tree)) : Parser Tree := fun s =>
  match children s with
  | (trees, s') =>
    let source := s.cursor.slice s.cursor.offset s'.cursor.offset
    (trees.map fun trees => ⟨rule, s.cursor.offset, source, trees⟩, s')

def leaf (rule : Rule) (taken : Text) : Parser Tree := fun s =>
  (some ⟨rule, s.cursor.offset, taken, []⟩, ⟨s.cursor.past taken, s.seen⟩)

/-! ## What readers and parsers have in common -/

/-- The record and what was found. Where a parser stands after a failure does not matter. -/
def outcome (parse : Parser α) (s : State) : Furthest × Option (α × Cursor) :=
  ((parse s).2.seen, (parse s).1.map fun a => (a, (parse s).2.cursor))

theorem outcome_of_none {parse : Parser α} {s s' : State} (h : parse s = (none, s')) :
    parse.outcome s = (s'.seen, none) := by
  unfold outcome
  rw [h]
  rfl

theorem outcome_of_some {parse : Parser α} {s s' : State} {a : α} (h : parse s = (some a, s')) :
    parse.outcome s = (s'.seen, some (a, s'.cursor)) := by
  unfold outcome
  rw [h]
  rfl

theorem outcome_bind (parse : Parser α) (next : α → Parser β) (s : State) :
    (parse >>= next).outcome s =
      match parse.outcome s with
      | (seen, none) => (seen, none)
      | (seen, some (a, c)) => (next a).outcome ⟨c, seen⟩ := by
  match h : parse s with
  | (none, s') =>
    have hbind : (parse >>= next) s = (none, s') := by simp only [bind, h]
    rw [outcome_of_none h, outcome_of_none hbind]
  | (some a, s') =>
    have hbind : (parse >>= next) s = next a s' := by simp only [bind, h]
    rw [outcome_of_some h]
    unfold outcome
    rw [hbind]

theorem outcome_firstOf_cons (parse : Parser α) (others : List (Parser α)) (s : State) :
    (firstOf (parse :: others)).outcome s =
      match parse.outcome s with
      | (seen, some found) => (seen, some found)
      | (seen, none) => (firstOf others).outcome ⟨s.cursor, seen⟩ := by
  match h : parse s with
  | (none, s') =>
    have hfirst : firstOf (parse :: others) s = firstOf others ⟨s.cursor, s'.seen⟩ := by
      simp only [firstOf, attempt, h]
    rw [outcome_of_none h]
    unfold outcome
    rw [hfirst]
  | (some a, s') =>
    have hfirst : firstOf (parse :: others) s = (some a, s') := by simp only [firstOf, attempt, h]
    rw [outcome_of_some h, outcome_of_some hfirst]

theorem outcome_many (parse : Parser α) (s : State) :
    outcome (many parse) s =
      match parse.outcome s with
      | (seen, none) => (seen, some ([], s.cursor))
      | (seen, some (a, c)) =>
        if c.rest.length < s.cursor.rest.length then
          match outcome (many parse) ⟨c, seen⟩ with
          | (seen', later) => (seen', later.map fun found => (a :: found.1, found.2))
        else
          (seen, some ([a], c)) := by
  match h : parse s with
  | (none, s') =>
    have hmany : many parse s = (some [], ⟨s.cursor, s'.seen⟩) := by
      rw [many]
      simp only [attempt, h]
    rw [outcome_of_none h, outcome_of_some hmany]
  | (some a, s') =>
    rw [outcome_of_some h]
    by_cases hlt : s'.cursor.rest.length < s.cursor.rest.length
    · have hmany : many parse s = ((many parse s').1.map (a :: ·), (many parse s').2) := by
        rw [many]
        simp only [attempt, h, if_pos hlt]
      simp only [if_pos hlt]
      unfold outcome
      rw [hmany]
      simp only [Option.map_map]
      rfl
    · have hmany : many parse s = (some [a], s') := by
        rw [many]
        simp only [attempt, h, if_neg hlt]
      rw [outcome_of_some hmany]
      simp only [if_neg hlt]

theorem outcome_node (rule : Rule) (children : Parser (List Tree)) (s : State) :
    (node rule children).outcome s =
      ((children.outcome s).1, (children.outcome s).2.map fun found =>
        (⟨rule, s.cursor.offset, s.cursor.slice s.cursor.offset found.2.offset, found.1⟩,
          found.2)) := by
  unfold outcome node
  simp only [Option.map_map]
  rfl

/-- The parser gives what the reader gives, with the record of its run. -/
def Threads (parse : Parser α) (read : Reader α) : Prop :=
  ∀ s, parse.outcome s = read.run s.seen s.cursor

theorem threads_pure (a : α) : Threads (pure a) (pure a) :=
  fun s => (Reader.run_pure a s.seen s.cursor).symm

theorem threads_fail : Threads (fail : Parser α) Reader.fail :=
  fun s => (Reader.run_fail s.seen s.cursor).symm

theorem threads_miss (expected : Expected) :
    Threads (miss expected : Parser α) (Reader.miss expected) :=
  fun s => (Reader.run_miss expected s.seen s.cursor).symm

theorem threads_here : Threads here Reader.here :=
  fun s => (Reader.run_here s.seen s.cursor).symm

theorem threads_leaf (rule : Rule) (taken : Text) :
    Threads (leaf rule taken) (Reader.leaf rule taken) :=
  fun s => (Reader.run_leaf rule taken s.seen s.cursor).symm

section

variable {parse : Parser α} {read : Reader α}

theorem Threads.bind {next : α → Parser β} {next' : α → Reader β} (h : Threads parse read)
    (hnext : ∀ a, Threads (next a) (next' a)) : Threads (parse >>= next) (read >>= next') := by
  intro s
  rw [outcome_bind, Reader.run_bind, h s]
  match read.run s.seen s.cursor with
  | (_, none) => rfl
  | (seen, some (a, c)) => exact hnext a ⟨c, seen⟩

theorem threads_firstOf_nil : Threads (firstOf ([] : List (Parser α))) (Reader.firstOf []) :=
  threads_fail

theorem Threads.firstOf_cons {others : List (Parser α)} {others' : List (Reader α)}
    (h : Threads parse read) (hothers : Threads (firstOf others) (Reader.firstOf others')) :
    Threads (firstOf (parse :: others)) (Reader.firstOf (read :: others')) := by
  intro s
  rw [outcome_firstOf_cons, Reader.run_firstOf_cons, h s]
  match read.run s.seen s.cursor with
  | (_, some _) => rfl
  | (seen, none) => exact hothers ⟨s.cursor, seen⟩

theorem Threads.many (h : Threads parse read) : Threads (many parse) (Reader.many read) := by
  intro s
  -- The induction is on the text that is left.
  induction hn : s.cursor.rest.length using Nat.strongRecOn generalizing s with
  | _ n ih =>
    rw [outcome_many, Reader.run_many, h s]
    match read.run s.seen s.cursor with
    | (_, none) => rfl
    | (seen, some (a, c)) =>
      simp only
      split
      · rename_i hlt
        rw [ih _ (hn ▸ hlt) ⟨c, seen⟩ rfl]
      · rfl

end

theorem Threads.node {children : Parser (List Tree)} {children' : Reader (List Tree)}
    (h : Threads children children') (rule : Rule) :
    Threads (node rule children) (Reader.node rule children') := by
  intro s
  rw [outcome_node, Reader.run_node, h s]

/-- One of two, depending on the text. The first needs to agree only where it is taken. -/
theorem threads_ite (test : Cursor → Prop) [DecidablePred test] {parse parse' : Parser α}
    {read read' : Reader α}
    (h : ∀ s, test s.cursor → parse.outcome s = read.run s.seen s.cursor)
    (h' : Threads parse' read') :
    Threads (fun s => if test s.cursor then parse s else parse' s)
      (fun c => if test c then read c else read' c) := by
  intro s
  by_cases ht : test s.cursor
  · have hs := h s ht
    unfold outcome Reader.run at *
    simpa only [if_pos ht] using hs
  · have hs := h' s
    unfold outcome Reader.run at *
    simpa only [if_neg ht] using hs

/-! ## Tokens -/

def literal (token : Text) : Parser Tree := fun s =>
  if token.isPrefixOf s.cursor.rest then leaf .terminal token s else miss (.literal token) s

def oneOf (tokens : List Text) : Parser Tree := firstOf (tokens.map literal)

def keyword (token : Text) : Parser Tree := fun s =>
  if token.isPrefixOf s.cursor.rest && atWordEnd (s.cursor.rest.drop token.length) then
    leaf .terminal token s
  else
    miss (.literal token) s

def spaces : Parser Tree := fun s => leaf .spaces (s.cursor.rest.takeWhile isSpace) s

def whitespace : Parser Tree := fun s =>
  match s.cursor.rest with
  | [] => miss (.described "whitespace") s
  | first :: _ => if isSpace first then spaces s else miss (.described "whitespace") s

def term : Parser Tree := fun s =>
  match s.cursor.rest with
  | [] => miss (.described "a term") s
  | first :: _ =>
    if isTermStart first then leaf .terminal (termRun s.cursor.rest) s
    else miss (.described "a term") s

/-- Without a delimiter the parser has come to the end of the text when it fails. -/
def body (close : Char) : Parser Tree := fun s =>
  match s.cursor.rest.delimited close with
  | some (taken, _) => leaf .terminal taken s
  | none => miss (.literal [close]) ⟨s.cursor.past s.cursor.rest, s.seen⟩

def wordTail : Parser Tree := fun s => leaf .terminal (termRun s.cursor.rest) s

def phrase : Parser Tree := node .terminal do
  let _ ← literal "\""
  let _ ← body '"'
  let _ ← literal "\""
  let _ ← wordTail
  return []

def word : Parser Tree := firstOf [phrase, term]

def endOfInput : Parser Unit := fun s =>
  if s.cursor.rest.isEmpty then (some (), s) else miss (.described "end of input") s

theorem threads_literal (token : Text) : Threads (literal token) (Token.literal token) :=
  threads_ite (fun c => token.isPrefixOf c.rest)
    (fun s _ => threads_leaf .terminal token s) (threads_miss _)

theorem threads_oneOf (tokens : List Text) : Threads (oneOf tokens) (Token.oneOf tokens) := by
  unfold oneOf Token.oneOf
  induction tokens with
  | nil => exact threads_firstOf_nil
  | cons token tokens ih => exact (threads_literal token).firstOf_cons ih

theorem threads_keyword (token : Text) : Threads (keyword token) (Token.keyword token) :=
  threads_ite (fun c => token.isPrefixOf c.rest && atWordEnd (c.rest.drop token.length))
    (fun s _ => threads_leaf .terminal token s) (threads_miss _)

theorem threads_spaces : Threads spaces Token.spaces := fun _ => rfl

theorem threads_whitespace : Threads whitespace Token.whitespace := by
  rintro ⟨⟨offset, rest⟩, seen⟩
  cases rest with
  | nil => rfl
  | cons first rest =>
    exact threads_ite (fun _ => isSpace first) (fun s _ => threads_spaces s) (threads_miss _)
      ⟨⟨offset, first :: rest⟩, seen⟩

theorem threads_term : Threads term Token.term := by
  rintro ⟨⟨offset, rest⟩, seen⟩
  cases rest with
  | nil => rfl
  | cons first rest =>
    exact threads_ite (fun _ => isTermStart first) (fun s _ => threads_leaf .terminal _ s)
      (threads_miss _) ⟨⟨offset, first :: rest⟩, seen⟩

theorem threads_body (close : Char) : Threads (body close) (Token.body close) := by
  intro s
  simp only [outcome, Reader.run, body, Token.body]
  cases s.cursor.rest.delimited close with
  | none => rfl
  | some found => rfl

theorem threads_wordTail : Threads wordTail Token.wordTail := fun _ => rfl

theorem threads_phrase : Threads phrase Token.phrase := by
  refine Threads.node ?_ .terminal
  exact (threads_literal _).bind fun _ => (threads_body _).bind fun _ =>
    (threads_literal _).bind fun _ => threads_wordTail.bind fun _ => threads_pure _

theorem threads_word : Threads word Token.word :=
  threads_phrase.firstOf_cons (threads_term.firstOf_cons threads_firstOf_nil)

theorem threads_endOfInput : Threads endOfInput Token.endOfInput :=
  threads_ite (fun c => c.rest.isEmpty) (fun s _ => threads_pure () s) (threads_miss _)

/-! ## Productions without conditions inside -/

def boolOperator : Parser Tree := node .boolOperator do
  let _ ← firstOf [keyword "AND", keyword "OR", keyword "NOT"]
  return []

def spacedOperator : Parser Tree := node .spaced do
  let before ← spaces
  let operator ← boolOperator
  let after ← spaces
  return [before, operator, after]

def orSpace : Parser Tree := node .orSpace do
  let _ ← whitespace
  return []

def rangeJoiner : Parser Tree := node .terminal do
  let _ ← whitespace
  let _ ← literal "TO"
  let _ ← whitespace
  return []

def rangeCondition : Parser Tree := node .rangeCondition do
  let opening ← oneOf ["[", "\x7b"]
  let before ← spaces
  let lower ← word
  let joiner ← rangeJoiner
  let upper ← word
  let after ← spaces
  let closing ← oneOf ["]", "\x7d"]
  return [opening, before, lower, joiner, upper, after, closing]

def simpleRangeCondition : Parser Tree := node .simpleRangeCondition do
  let operand ← oneOf [">=", "<=", ">", "<"]
  let value ← word
  return [operand, value]

def regexCondition : Parser Tree := node .regexCondition do
  let opening ← literal "/"
  let expression ← body '/'
  let closing ← literal "/"
  return [opening, expression, closing]

def detachedCondition : Parser Tree := node .detachedCondition do
  let raw ← word
  return [raw]

theorem threads_boolOperator : Threads boolOperator Grammar.boolOperator := by
  refine Threads.node ?_ .boolOperator
  have hkeywords := (threads_keyword "AND").firstOf_cons ((threads_keyword "OR").firstOf_cons
    ((threads_keyword "NOT").firstOf_cons threads_firstOf_nil))
  exact hkeywords.bind fun _ => threads_pure _

theorem threads_spacedOperator : Threads spacedOperator Grammar.spacedOperator := by
  refine Threads.node ?_ .spaced
  exact threads_spaces.bind fun _ => threads_boolOperator.bind fun _ =>
    threads_spaces.bind fun _ => threads_pure _

theorem threads_orSpace : Threads orSpace Grammar.orSpace := by
  refine Threads.node ?_ .orSpace
  exact threads_whitespace.bind fun _ => threads_pure _

theorem threads_rangeJoiner : Threads rangeJoiner Grammar.rangeJoiner := by
  refine Threads.node ?_ .terminal
  exact threads_whitespace.bind fun _ => (threads_literal _).bind fun _ =>
    threads_whitespace.bind fun _ => threads_pure _

theorem threads_rangeCondition : Threads rangeCondition Grammar.rangeCondition := by
  refine Threads.node ?_ .rangeCondition
  exact (threads_oneOf _).bind fun _ => threads_spaces.bind fun _ => threads_word.bind fun _ =>
    threads_rangeJoiner.bind fun _ => threads_word.bind fun _ => threads_spaces.bind fun _ =>
    (threads_oneOf _).bind fun _ => threads_pure _

theorem threads_simpleRangeCondition :
    Threads simpleRangeCondition Grammar.simpleRangeCondition := by
  refine Threads.node ?_ .simpleRangeCondition
  exact (threads_oneOf _).bind fun _ => threads_word.bind fun _ => threads_pure _

theorem threads_regexCondition : Threads regexCondition Grammar.regexCondition := by
  refine Threads.node ?_ .regexCondition
  exact (threads_literal _).bind fun _ => (threads_body _).bind fun _ =>
    (threads_literal _).bind fun _ => threads_pure _

theorem threads_detachedCondition : Threads detachedCondition Grammar.detachedCondition := by
  refine Threads.node ?_ .detachedCondition
  exact threads_word.bind fun _ => threads_pure _

/-! ## Productions with conditions inside -/

section

variable (condition : Parser Tree)

def continuation : Parser (Tree × Tree) :=
  firstOf [
    do let separator ← spacedOperator
       let next ← condition
       return (separator, next),
    do let separator ← orSpace
       let next ← condition
       return (separator, next)]

def list : Parser Tree := node .list do
  let first ← condition
  let c ← here
  let later ← many (continuation condition)
  return [first, Grammar.iteration c (later.map Prod.fst), Grammar.iteration c (later.map Prod.snd)]

def parented : Parser Tree := node .parented do
  let opening ← literal "("
  let before ← spaces
  let inner ← list condition
  let after ← spaces
  let closing ← literal ")"
  return [opening, before, inner, after, closing]

def longNegation : Parser Tree := node .longNegation do
  let mark ← keyword "NOT"
  let blank ← whitespace
  let value ← condition
  return [mark, blank, value]

def simpleNegation : Parser Tree := node .simpleNegation do
  let mark ← literal "-"
  let value ← condition
  return [mark, value]

def simpleMust : Parser Tree := node .simpleMust do
  let mark ← literal "+"
  let value ← condition
  return [mark, value]

def value : Parser Tree :=
  firstOf [rangeCondition, simpleRangeCondition, regexCondition, parented condition, word]

def fieldCondition : Parser Tree := node .fieldCondition do
  let name ← term
  let colon ← literal ":"
  let value ← value condition
  return [name, colon, value]

def conditionWith : Parser Tree :=
  firstOf [parented condition, longNegation condition, simpleNegation condition,
    simpleMust condition, fieldCondition condition, detachedCondition]

end

section

variable {condition : Parser Tree} {condition' : Reader Tree} (h : Threads condition condition')

include h

theorem threads_continuation :
    Threads (continuation condition) (Grammar.continuation condition') := by
  have hoperator := threads_spacedOperator.bind fun a => h.bind fun b => threads_pure (a, b)
  have hblank := threads_orSpace.bind fun a => h.bind fun b => threads_pure (a, b)
  exact hoperator.firstOf_cons (hblank.firstOf_cons threads_firstOf_nil)

theorem threads_list : Threads (list condition) (Grammar.list condition') := by
  refine Threads.node ?_ .list
  exact h.bind fun _ => threads_here.bind fun _ => (threads_continuation h).many.bind fun _ =>
    threads_pure _

theorem threads_parented : Threads (parented condition) (Grammar.parented condition') := by
  refine Threads.node ?_ .parented
  exact (threads_literal _).bind fun _ => threads_spaces.bind fun _ => (threads_list h).bind fun _ =>
    threads_spaces.bind fun _ => (threads_literal _).bind fun _ => threads_pure _

theorem threads_longNegation :
    Threads (longNegation condition) (Grammar.longNegation condition') := by
  refine Threads.node ?_ .longNegation
  exact (threads_keyword _).bind fun _ => threads_whitespace.bind fun _ => h.bind fun _ =>
    threads_pure _

theorem threads_simpleNegation :
    Threads (simpleNegation condition) (Grammar.simpleNegation condition') := by
  refine Threads.node ?_ .simpleNegation
  exact (threads_literal _).bind fun _ => h.bind fun _ => threads_pure _

theorem threads_simpleMust : Threads (simpleMust condition) (Grammar.simpleMust condition') := by
  refine Threads.node ?_ .simpleMust
  exact (threads_literal _).bind fun _ => h.bind fun _ => threads_pure _

theorem threads_value : Threads (value condition) (Grammar.value condition') :=
  threads_rangeCondition.firstOf_cons (threads_simpleRangeCondition.firstOf_cons
    (threads_regexCondition.firstOf_cons ((threads_parented h).firstOf_cons
    (threads_word.firstOf_cons threads_firstOf_nil))))

theorem threads_fieldCondition :
    Threads (fieldCondition condition) (Grammar.fieldCondition condition') := by
  refine Threads.node ?_ .fieldCondition
  exact threads_term.bind fun _ => (threads_literal _).bind fun _ => (threads_value h).bind fun _ =>
    threads_pure _

theorem threads_conditionWith :
    Threads (conditionWith condition) (Grammar.conditionWith condition') :=
  (threads_parented h).firstOf_cons ((threads_longNegation h).firstOf_cons
    ((threads_simpleNegation h).firstOf_cons ((threads_simpleMust h).firstOf_cons
    ((threads_fieldCondition h).firstOf_cons (threads_detachedCondition.firstOf_cons
    threads_firstOf_nil)))))

end

/-! ## The whole grammar -/

def condition (s : State) : Option Tree × State :=
  conditionWith (fun s' =>
    if s'.cursor.rest.length < s.cursor.rest.length then condition s' else fail s') s
termination_by s.cursor.rest.length

def query : Parser Tree := node .query do
  let leading ← spaces
  let conditions ← list condition
  let trailing ← spaces
  endOfInput
  return [leading, conditions, trailing]

theorem threads_condition : Threads condition Grammar.condition := by
  intro s
  induction hn : s.cursor.rest.length using Nat.strongRecOn generalizing s with
  | _ n ih =>
    have hinner := threads_ite (fun c => c.rest.length < s.cursor.rest.length)
      (fun s' hlt => ih _ (hn ▸ hlt) s' rfl) threads_fail
    have hs := threads_conditionWith hinner s
    unfold outcome Reader.run at *
    rw [condition, Grammar.condition]
    exact hs

theorem threads_query : Threads query Grammar.query := by
  refine Threads.node ?_ .query
  exact threads_spaces.bind fun _ => (threads_list threads_condition).bind fun _ =>
    threads_spaces.bind fun _ => threads_endOfInput.bind fun _ => threads_pure _

end Parser

namespace Production

/-- The parser of a production. -/
def parser : Production → Parser Tree
  | query => Parser.query
  | list => Parser.list Parser.condition
  | spacedOperator => Parser.spacedOperator
  | orSpace => Parser.orSpace
  | condition => Parser.condition
  | parented => Parser.parented Parser.condition
  | longNegation => Parser.longNegation Parser.condition
  | simpleNegation => Parser.simpleNegation Parser.condition
  | simpleMust => Parser.simpleMust Parser.condition
  | field => Parser.fieldCondition Parser.condition
  | value => Parser.value Parser.condition
  | range => Parser.rangeCondition
  | simpleRange => Parser.simpleRangeCondition
  | regex => Parser.regexCondition
  | detached => Parser.detachedCondition
  | phrase => Parser.phrase
  | term => Parser.term

theorem threads_reader (p : Production) : Parser.Threads p.parser p.reader := by
  have h := Parser.threads_condition
  cases p with
  | query => exact Parser.threads_query
  | list => exact Parser.threads_list h
  | spacedOperator => exact Parser.threads_spacedOperator
  | orSpace => exact Parser.threads_orSpace
  | condition => exact h
  | parented => exact Parser.threads_parented h
  | longNegation => exact Parser.threads_longNegation h
  | simpleNegation => exact Parser.threads_simpleNegation h
  | simpleMust => exact Parser.threads_simpleMust h
  | field => exact Parser.threads_fieldCondition h
  | value => exact Parser.threads_value h
  | range => exact Parser.threads_rangeCondition
  | simpleRange => exact Parser.threads_simpleRangeCondition
  | regex => exact Parser.threads_regexCondition
  | detached => exact Parser.threads_detachedCondition
  | phrase => exact Parser.threads_phrase
  | term => exact Parser.threads_term

end Production

open Peg in
/-- A production gives what the grammar derives where it starts, whatever is on record there, and adds to
the record what its reader tries without a match. -/
theorem parser_follows_grammar (p : Production) (s : Parser.State) :
    (p.parser s).2.seen = (p.reader s.cursor).attempts.foldl Furthest.note s.seen ∧
    ∀ o : Option (Tree × Cursor), (p.parser.outcome s).2 = o ↔
      Derives (.ref p) s.cursor (o.map fun found => ([found.1], found.2)) := by
  have h := p.threads_reader s
  refine ⟨congrArg Prod.fst h, fun o => ?_⟩
  rw [h]
  exact (p.derives_iff_result s.cursor o).symm

theorem parseTree_of_run (t : Text) :
    parseTree t = match Grammar.query.run Furthest.start (Cursor.start t) with
      | (_, some (tree, _)) => .ok tree
      | (seen, none) => .error ⟨t, seen.offset, seen.expected⟩ := by
  unfold parseTree Reader.run
  match Grammar.query (Cursor.start t) with
  | ⟨_, some _⟩ => rfl
  | ⟨_, none⟩ => rfl

/-- A parse tree is what one run over the text gives, and a mismatch is what is on record after it. -/
theorem parseTree_eq_query (t : Text) :
    parseTree t = match Parser.query ⟨Cursor.start t, Furthest.start⟩ with
      | (some tree, _) => .ok tree
      | (none, s) => .error ⟨t, s.seen.offset, s.seen.expected⟩ := by
  have h := Parser.threads_query ⟨Cursor.start t, Furthest.start⟩
  rw [parseTree_of_run, ← h]
  match hrun : Parser.query ⟨Cursor.start t, Furthest.start⟩ with
  | (none, s) => rw [Parser.outcome_of_none hrun]
  | (some tree, s) => rw [Parser.outcome_of_some hrun]

end SearchQuery
