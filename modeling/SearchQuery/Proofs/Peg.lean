import SearchQuery.Grammar

/-! # Parsing expressions

The grammar as data, and what it means. Failing is an outcome like any other.
-/

namespace SearchQuery

/-- The rules that the grammar refers to by name. -/
inductive Production where
  | query
  | list
  | spacedOperator
  | orSpace
  | condition
  | parented
  | longNegation
  | simpleNegation
  | simpleMust
  | field
  | value
  | range
  | simpleRange
  | regex
  | detached
  | phrase
  | term
deriving DecidableEq, Repr

/-- A parsing expression. What matches gives the nodes that were made on the way. -/
inductive Peg where
  /-- One character of a class. -/
  | one (inClass : Char → Bool)
  | token (t : Text)
  | seq (parts : List Peg)
  /-- The first of the alternatives that matches. -/
  | choice (alternatives : List Peg)
  /-- As many matches as there are, one after the other. -/
  | star (part : Peg)
  /-- Nothing, at a place where the expression does not match. -/
  | notAt (part : Peg)
  /-- A node without children over the match. -/
  | leaf (rule : Rule) (part : Peg)
  /-- A node over the match, with the nodes inside it as children. -/
  | node (rule : Rule) (part : Peg)
  /-- A repetition of two nodes, sorted into an iteration of the first and one of the second ones. -/
  | pairs (part : Peg)
  | ref (production : Production)

/-! ## The grammar of query strings -/

namespace Peg

def any : Peg := .one fun _ => true

def endOfInput : Peg := .notAt any

/-- Any number of characters of a class, and of characters after a backslash. -/
def escaped (inClass : Char → Bool) : Peg :=
  .star (.choice [.seq [.token "\\", any], .one inClass])

/-- A token that does not run on into a longer term. -/
def bareKeyword (t : Text) : Peg := .seq [.token t, .notAt (.one isTermChar)]

def bareWhitespace : Peg := .seq [.one isSpace, .star (.one isSpace)]

def literal (t : Text) : Peg := .leaf .terminal (.token t)

def spaces : Peg := .leaf .spaces (.star (.one isSpace))

def bound : Peg := .choice [.ref .phrase, .ref .term]

end Peg

open Peg in
/-- What each rule of the grammar stands for. -/
def Production.rule : Production → Peg
  | query => .node .query (.seq [spaces, .ref .list, spaces, endOfInput])
  | list => .node .list (.seq [.ref .condition, .pairs (.choice [
      .seq [.ref .spacedOperator, .ref .condition],
      .seq [.ref .orSpace, .ref .condition]])])
  | spacedOperator => .node .spaced (.seq [spaces,
      .leaf .boolOperator (.choice [bareKeyword "AND", bareKeyword "OR", bareKeyword "NOT"]),
      spaces])
  | orSpace => .leaf .orSpace bareWhitespace
  | condition => .choice [.ref .parented, .ref .longNegation, .ref .simpleNegation,
      .ref .simpleMust, .ref .field, .ref .detached]
  | parented => .node .parented (.seq [literal "(", spaces, .ref .list, spaces, literal ")"])
  | longNegation => .node .longNegation (.seq [.leaf .terminal (bareKeyword "NOT"),
      .leaf .spaces bareWhitespace, .ref .condition])
  | simpleNegation => .node .simpleNegation (.seq [literal "-", .ref .condition])
  | simpleMust => .node .simpleMust (.seq [literal "+", .ref .condition])
  | field => .node .fieldCondition (.seq [.ref .term, literal ":", .ref .value])
  | value => .choice [.ref .range, .ref .simpleRange, .ref .regex, .ref .parented, .ref .phrase,
      .ref .term]
  | range => .node .rangeCondition (.seq [.leaf .terminal (.choice [.token "[", .token "\x7b"]),
      spaces, bound, .leaf .terminal (.seq [bareWhitespace, .token "TO", bareWhitespace]), bound,
      spaces, .leaf .terminal (.choice [.token "]", .token "\x7d"])])
  | simpleRange => .node .simpleRangeCondition (.seq [
      .leaf .terminal (.choice [.token ">=", .token "<=", .token ">", .token "<"]), bound])
  | regex => .node .regexCondition (.seq [literal "/", .leaf .terminal (escaped (· ≠ '/')),
      literal "/"])
  | detached => .node .detachedCondition bound
  | phrase => .leaf .terminal (.seq [.token "\"", escaped (· ≠ '"'), .token "\"",
      escaped isTermChar])
  | term => .leaf .terminal (.seq [.notAt (.token "/"),
      .choice [.seq [.token "\\", any], .one isTermChar], escaped isTermChar])

/-! ## Derivations -/

namespace Peg

/-- Every second item, from the first on. -/
def firsts {α : Type} : List α → List α
  | first :: _ :: later => first :: firsts later
  | _ => []

/-- Every second item, from the second on. -/
def seconds {α : Type} : List α → List α
  | _ :: second :: later => second :: seconds later
  | _ => []

/-- The outcome of an expression at a cursor: the nodes it gives and the cursor after the match, or
nothing if it fails there. -/
inductive Derives : Peg → Cursor → Option (List Tree × Cursor) → Prop where
  | one {inClass : Char → Bool} {c : Cursor} {x : Char} {rest : Text} :
      c.rest = x :: rest → inClass x →
      Derives (.one inClass) c (some ([], ⟨c.offset + x.utf8Size, rest⟩))
  | oneFail {inClass : Char → Bool} {c : Cursor} :
      (∀ x rest, c.rest = x :: rest → ¬ inClass x) → Derives (.one inClass) c none
  | token {t : Text} {c : Cursor} {rest : Text} :
      c.rest = t ++ rest → Derives (.token t) c (some ([], ⟨c.offset + t.byteSize, rest⟩))
  | tokenFail {t : Text} {c : Cursor} : ¬ t <+: c.rest → Derives (.token t) c none
  | seqNil {c : Cursor} : Derives (.seq []) c (some ([], c))
  | seqCons {e : Peg} {es : List Peg} {c c' c'' : Cursor} {ts us : List Tree} :
      Derives e c (some (ts, c')) → Derives (.seq es) c' (some (us, c'')) →
      Derives (.seq (e :: es)) c (some (ts ++ us, c''))
  | seqFail {e : Peg} {es : List Peg} {c : Cursor} :
      Derives e c none → Derives (.seq (e :: es)) c none
  | seqFailLater {e : Peg} {es : List Peg} {c c' : Cursor} {ts : List Tree} :
      Derives e c (some (ts, c')) → Derives (.seq es) c' none → Derives (.seq (e :: es)) c none
  | choiceNil {c : Cursor} : Derives (.choice []) c none
  | choiceHit {e : Peg} {es : List Peg} {c : Cursor} {found : List Tree × Cursor} :
      Derives e c (some found) → Derives (.choice (e :: es)) c (some found)
  | choiceMiss {e : Peg} {es : List Peg} {c : Cursor} {o : Option (List Tree × Cursor)} :
      Derives e c none → Derives (.choice es) c o → Derives (.choice (e :: es)) c o
  | starStop {e : Peg} {c : Cursor} : Derives e c none → Derives (.star e) c (some ([], c))
  | starMore {e : Peg} {c c' c'' : Cursor} {ts us : List Tree} :
      Derives e c (some (ts, c')) → Derives (.star e) c' (some (us, c'')) →
      Derives (.star e) c (some (ts ++ us, c''))
  | notAt {e : Peg} {c : Cursor} : Derives e c none → Derives (.notAt e) c (some ([], c))
  | notAtFail {e : Peg} {c : Cursor} {found : List Tree × Cursor} :
      Derives e c (some found) → Derives (.notAt e) c none
  | leaf {rule : Rule} {e : Peg} {c c' : Cursor} {ts : List Tree} {taken : Text} :
      Derives e c (some (ts, c')) → c.rest = taken ++ c'.rest →
      Derives (.leaf rule e) c (some ([⟨rule, c.offset, taken, []⟩], c'))
  | leafFail {rule : Rule} {e : Peg} {c : Cursor} :
      Derives e c none → Derives (.leaf rule e) c none
  | node {rule : Rule} {e : Peg} {c c' : Cursor} {ts : List Tree} {taken : Text} :
      Derives e c (some (ts, c')) → c.rest = taken ++ c'.rest →
      Derives (.node rule e) c (some ([⟨rule, c.offset, taken, ts⟩], c'))
  | nodeFail {rule : Rule} {e : Peg} {c : Cursor} :
      Derives e c none → Derives (.node rule e) c none
  | pairs {e : Peg} {c c' : Cursor} {ts : List Tree} :
      Derives (.star e) c (some (ts, c')) → Derives (.pairs e) c (some
        ([Grammar.iteration c (firsts ts), Grammar.iteration c (seconds ts)], c'))
  | ref {p : Production} {c : Cursor} {o : Option (List Tree × Cursor)} :
      Derives p.rule c o → Derives (.ref p) c o

theorem Derives.unique {e : Peg} {c : Cursor} {o o' : Option (List Tree × Cursor)}
    (h : Derives e c o) (h' : Derives e c o') : o = o' := by
  induction h generalizing o' with
  | one hrest hx =>
    cases h' with
    | one hrest' _ =>
      obtain ⟨rfl, rfl⟩ := List.cons.inj (hrest.symm.trans hrest')
      rfl
    | oneFail hno => exact absurd hx (hno _ _ hrest)
  | oneFail hno =>
    cases h' with
    | one hrest hx => exact absurd hx (hno _ _ hrest)
    | oneFail _ => rfl
  | token hrest =>
    cases h' with
    | token hrest' => rw [List.append_cancel_left (hrest.symm.trans hrest')]
    | tokenFail hno => exact absurd ⟨_, hrest.symm⟩ hno
  | tokenFail hno =>
    cases h' with
    | token hrest => exact absurd ⟨_, hrest.symm⟩ hno
    | tokenFail _ => rfl
  | seqNil =>
    cases h'
    rfl
  | seqCons _ _ ih ihs =>
    cases h' with
    | seqCons h₁ h₂ =>
      cases ih h₁
      cases ihs h₂
      rfl
    | seqFail h₁ => cases ih h₁
    | seqFailLater h₁ h₂ =>
      cases ih h₁
      cases ihs h₂
  | seqFail _ ih =>
    cases h' with
    | seqCons h₁ _ => cases ih h₁
    | seqFail _ => rfl
    | seqFailLater h₁ _ => cases ih h₁
  | seqFailLater _ _ ih ihs =>
    cases h' with
    | seqCons h₁ h₂ =>
      cases ih h₁
      cases ihs h₂
    | seqFail _ => rfl
    | seqFailLater _ _ => rfl
  | choiceNil =>
    cases h'
    rfl
  | choiceHit _ ih =>
    cases h' with
    | choiceHit h₁ => exact ih h₁
    | choiceMiss h₁ _ => cases ih h₁
  | choiceMiss _ _ ih ihs =>
    cases h' with
    | choiceHit h₁ => cases ih h₁
    | choiceMiss _ h₂ => exact ihs h₂
  | starStop _ ih =>
    cases h' with
    | starStop _ => rfl
    | starMore h₁ _ => cases ih h₁
  | starMore _ _ ih ihs =>
    cases h' with
    | starStop h₁ => cases ih h₁
    | starMore h₁ h₂ =>
      cases ih h₁
      cases ihs h₂
      rfl
  | notAt _ ih =>
    cases h' with
    | notAt _ => rfl
    | notAtFail h₁ => cases ih h₁
  | notAtFail _ ih =>
    cases h' with
    | notAt h₁ => cases ih h₁
    | notAtFail _ => rfl
  | leaf _ htaken ih =>
    cases h' with
    | leaf h₁ htaken' =>
      cases ih h₁
      rw [List.append_cancel_right (htaken.symm.trans htaken')]
    | leafFail h₁ => cases ih h₁
  | leafFail _ ih =>
    cases h' with
    | leaf h₁ _ => cases ih h₁
    | leafFail _ => rfl
  | node _ htaken ih =>
    cases h' with
    | node h₁ htaken' =>
      cases ih h₁
      rw [List.append_cancel_right (htaken.symm.trans htaken')]
    | nodeFail h₁ => cases ih h₁
  | nodeFail _ ih =>
    cases h' with
    | node h₁ _ => cases ih h₁
    | nodeFail _ => rfl
  | pairs _ ih =>
    cases h' with
    | pairs h₁ =>
      cases ih h₁
      rfl
  | ref _ ih =>
    cases h' with
    | ref h₁ => exact ih h₁

/-! ## Outcomes put together -/

theorem Derives.choice_or {e : Peg} {es : List Peg} {c : Cursor}
    {o o' : Option (List Tree × Cursor)} (h : Derives e c o) (h' : Derives (.choice es) c o') :
    Derives (.choice (e :: es)) c (o.or o') := by
  cases o with
  | none => exact .choiceMiss h h'
  | some found => exact .choiceHit h

theorem Derives.seq_bind {e : Peg} {es : List Peg} {c : Cursor} {o : Option (List Tree × Cursor)}
    {next : Cursor → Option (List Tree × Cursor)} (h : Derives e c o)
    (hnext : ∀ ts c', o = some (ts, c') → Derives (.seq es) c' (next c')) :
    Derives (.seq (e :: es)) c (o.bind fun found =>
      (next found.2).map fun later => (found.1 ++ later.1, later.2)) := by
  cases o with
  | none => exact .seqFail h
  | some found =>
    have hlater := hnext found.1 found.2 rfl
    rw [Option.bind_some]
    cases hl : next found.2 with
    | none =>
      rw [hl] at hlater
      exact .seqFailLater h hlater
    | some later =>
      rw [hl] at hlater
      exact .seqCons h hlater

end Peg

end SearchQuery
