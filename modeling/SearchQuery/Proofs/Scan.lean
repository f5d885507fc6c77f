import SearchQuery.Proofs.Progress
import SearchQuery.Proofs.Walk
import SearchQuery.Proofs.Word

/-! # Queries straight from texts

The grammar once more, on texts in place of cursors and with queries in place of trees.
-/

namespace SearchQuery

namespace Scan

open Lexeme

/-! ## Productions on texts -/

def spacedOperator (t : Text) : Option (Query × Text) := do
  let token ← split operator (t.dropWhile isSpace)
  let op ← Operator.ofText? token.1
  return (.operator op, token.2.dropWhile isSpace)

def orSpace (t : Text) : Option (Query × Text) := do
  let blank ← split whitespace t
  return (.operator .either, blank.2)

def rangeCondition (t : Text) : Option (Query × Text) := do
  let opening ← split rangeOpening t
  let lower ← split word (opening.2.dropWhile isSpace)
  let joiner ← split rangeJoiner lower.2
  let upper ← split word joiner.2
  let closing ← split rangeClosing (upper.2.dropWhile isSpace)
  let left ← Edge.ofOpening? opening.1
  let right ← Edge.ofClosing? closing.1
  return (.range left lower.1 upper.1 right, closing.2)

def simpleRangeCondition (t : Text) : Option (Query × Text) := do
  let operand ← split comparison t
  let value ← split word operand.2
  let comparison ← Comparison.ofText? operand.1
  return (.comparison comparison (.term value.1), value.2)

def regexCondition (t : Text) : Option (Query × Text) := do
  let opening ← split (literal "/") t
  let expression ← split (body '/') opening.2
  let closing ← split (literal "/") expression.2
  return (.regex expression.1, closing.2)

def detachedCondition (t : Text) : Option (Query × Text) := do
  let raw ← split word t
  return (.term raw.1, raw.2)

section

variable (condition : Text → Option (Query × Text))

/-- A separator and the condition after it. -/
def separated (separator : Text → Option (Query × Text)) (t : Text) :
    Option ((Query × Query) × Text) := do
  let op ← separator t
  let next ← condition op.2
  return ((op.1, next.1), next.2)

def continuation (t : Text) : Option ((Query × Query) × Text) :=
  (separated condition spacedOperator t).or (separated condition orSpace t)

/-- The items of a list after the first. -/
def tail (t : Text) : List Query × Text :=
  match continuation condition t with
  | none => ([], t)
  | some found =>
    if found.2.length < t.length then
      (found.1.1 :: found.1.2 :: (tail found.2).1, (tail found.2).2)
    else
      ([found.1.1, found.1.2], found.2)
termination_by t.length

def items (t : Text) : Option (List Query × Text) := do
  let first ← condition t
  return (first.1 :: (tail condition first.2).1, (tail condition first.2).2)

def list (t : Text) : Option (Query × Text) := do
  let found ← items condition t
  let q ← Query.ofItems? found.1
  return (q, found.2)

def parented (t : Text) : Option (Query × Text) := do
  let opening ← split (literal "(") t
  let inner ← list condition (opening.2.dropWhile isSpace)
  let closing ← split (literal ")") (inner.2.dropWhile isSpace)
  return (.parenthesized inner.1, closing.2)

def longNegation (t : Text) : Option (Query × Text) := do
  let mark ← split (keyword "NOT") t
  let blank ← split whitespace mark.2
  let value ← condition blank.2
  return (.marked .not value.1, value.2)

/-- A condition behind a sign that touches it. -/
def signed (mark : Mark) (t : Text) : Option (Query × Text) := do
  let sign ← split (literal mark.text) t
  let value ← condition sign.2
  return (.marked mark value.1, value.2)

def value (t : Text) : Option (Query × Text) :=
  (rangeCondition t).or ((simpleRangeCondition t).or ((regexCondition t).or
    ((parented condition t).or (detachedCondition t))))

def fieldCondition (t : Text) : Option (Query × Text) := do
  let name ← split term t
  let colon ← split (literal ":") name.2
  let value ← value condition colon.2
  return (.field name.1 value.1, value.2)

def conditionWith (t : Text) : Option (Query × Text) :=
  (parented condition t).or ((longNegation condition t).or ((signed condition .minus t).or
    ((signed condition .plus t).or ((fieldCondition condition t).or (detachedCondition t)))))

end

/-- A condition at the front of a text, and the text after it. -/
def condition (t : Text) : Option (Query × Text) :=
  conditionWith (fun t' => if t'.length < t.length then condition t' else none) t
termination_by t.length

/-- A list of conditions with nothing but blanks around it. -/
def query (t : Text) : Option (Query × Text) := do
  let found ← list condition (t.dropWhile isSpace)
  if found.2.dropWhile isSpace = [] then some (found.1, []) else none

end Scan

/-! ## Trees that stand for queries -/

/-- The tree starts at the cursor and stands for the query, and the same text is left. -/
structure StandsFor (c : Cursor) (found : Tree × Cursor) (read : Query × Text) : Prop where
  rest : found.2.rest = read.2
  offset : found.1.offset = c.offset
  rule : found.1.rule ≠ .iteration
  meaning : found.1.toQuery = .ok read.1

/-- A reader of trees and a function on texts that find the same queries. -/
def Reader.Reads (read : Reader Tree) (scan : Text → Option (Query × Text)) : Prop :=
  ∀ c, Option.Rel (StandsFor c) (read c).result (scan c.rest)

section

variable {α β γ δ : Type} {R : α → β → Prop} {S : γ → δ → Prop}

theorem rel_bind {x : Option α} {y : Option β} {f : α → Option γ} {g : β → Option δ}
    (h : Option.Rel R x y) (hnext : ∀ a b, x = some a → R a b → Option.Rel S (f a) (g b)) :
    Option.Rel S (x.bind f) (y.bind g) := by
  cases h with
  | none => exact .none
  | some hab => exact hnext _ _ rfl hab

theorem rel_or {x x' : Option α} {y y' : Option β} (h : Option.Rel R x y)
    (h' : Option.Rel R x' y') : Option.Rel R (x.or x') (y.or y') := by
  cases h with
  | none => exact h'
  | some hab => exact .some hab

end

namespace Reader

theorem Takes.rel_bind {γ δ : Type} {S : γ → δ → Prop} {read : Reader Tree} {rule : Rule}
    {take : Text → Option Text} (h : read.Takes rule take) (c : Cursor)
    {f : Tree × Cursor → Option γ} {g : Text × Text → Option δ}
    (hnext : ∀ s, take c.rest = some s →
      Option.Rel S (f (⟨rule, c.offset, s, []⟩, c.past s)) (g (s, (c.past s).rest))) :
    Option.Rel S ((read c).result.bind f) ((Lexeme.split take c.rest).bind g) := by
  rw [h.result, Lexeme.split]
  cases hs : take c.rest with
  | none => exact .none
  | some s => exact hnext s hs

end Reader

theorem drop_takeWhile (t : Text) :
    t.drop (t.takeWhile isSpace).length = t.dropWhile isSpace := by
  induction t with
  | nil => rfl
  | cons x rest ih => by_cases hx : isSpace x <;> simp [hx, ih]

theorem past_blanks (c : Cursor) :
    (c.past (c.rest.takeWhile isSpace)).rest = c.rest.dropWhile isSpace := drop_takeWhile c.rest

/-! ## Tokens with a meaning -/

namespace Lexeme

theorem mem_of_firstOf {take : Text → Text → Option Text} {tokens : List Text} {t s : Text}
    (htake : ∀ token, take token t = some s → s = token)
    (h : firstOf (tokens.map take) t = some s) : s ∈ tokens := by
  induction tokens with
  | nil => simp [firstOf] at h
  | cons token others ih =>
    rw [List.map_cons, firstOf, Option.or_eq_some_iff] at h
    rcases h with h | ⟨-, h⟩
    · rw [htake token h]
      exact List.mem_cons_self
    · exact List.mem_cons_of_mem _ (ih h)

theorem eq_of_literal {t s : Text} (token : Text) (h : literal token t = some s) : s = token := by
  rw [literal, Option.ite_none_right_eq_some] at h
  exact (Option.some.inj h.2).symm

theorem eq_of_keyword {t s : Text} (token : Text) (h : keyword token t = some s) : s = token := by
  rw [keyword, Option.ite_none_right_eq_some] at h
  exact (Option.some.inj h.2).symm

theorem exists_operator {t s : Text} (h : operator t = some s) :
    ∃ op, Operator.ofText? s = some op := by
  have hmem : s ∈ (["AND", "OR", "NOT"] : List Text) := mem_of_firstOf eq_of_keyword h
  have hknown : ∀ s ∈ (["AND", "OR", "NOT"] : List Text), (Operator.ofText? s).isSome := by decide
  exact Option.isSome_iff_exists.mp (hknown s hmem)

theorem exists_opening {t s : Text} (h : rangeOpening t = some s) :
    ∃ edge, Edge.ofOpening? s = some edge := by
  have hmem : s ∈ (["[", "\x7b"] : List Text) := mem_of_firstOf eq_of_literal h
  have hknown : ∀ s ∈ (["[", "\x7b"] : List Text), (Edge.ofOpening? s).isSome := by decide
  exact Option.isSome_iff_exists.mp (hknown s hmem)

theorem exists_closing {t s : Text} (h : rangeClosing t = some s) :
    ∃ edge, Edge.ofClosing? s = some edge := by
  have hmem : s ∈ (["]", "\x7d"] : List Text) := mem_of_firstOf eq_of_literal h
  have hknown : ∀ s ∈ (["]", "\x7d"] : List Text), (Edge.ofClosing? s).isSome := by decide
  exact Option.isSome_iff_exists.mp (hknown s hmem)

theorem exists_comparison {t s : Text} (h : comparison t = some s) :
    ∃ operand, Comparison.ofText? s = some operand := by
  have hmem : s ∈ ([">=", "<=", ">", "<"] : List Text) := mem_of_firstOf eq_of_literal h
  have hknown : ∀ s ∈ ([">=", "<=", ">", "<"] : List Text), (Comparison.ofText? s).isSome := by
    decide
  exact Option.isSome_iff_exists.mp (hknown s hmem)

end Lexeme

namespace Grammar

open Reader Token

theorem result_spaces (c : Cursor) : (spaces c).result = some
    (⟨.spaces, c.offset, c.rest.takeWhile isSpace, []⟩, c.past (c.rest.takeWhile isSpace)) := rfl

/-! ## Productions without conditions inside -/

theorem spacedOperator_reads : spacedOperator.Reads Scan.spacedOperator := by
  intro c
  simp only [spacedOperator, result_node, result_bind, result_pure, result_spaces, Option.bind_some,
    Option.map_bind, Function.comp_def, Option.map_some]
  rw [Scan.spacedOperator, ← past_blanks]
  refine boolOperator_takes.rel_bind _ fun s hs => ?_
  obtain ⟨op, hop⟩ := Lexeme.exists_operator hs
  simp only [hop]
  exact .some ⟨past_blanks _, rfl, by simp, Tree.toQuery_spaced (Tree.toQuery_boolOperator hop)⟩

theorem orSpace_reads : orSpace.Reads Scan.orSpace := by
  intro c
  rw [← Option.bind_fun_some (orSpace c).result]
  refine orSpace_takes.rel_bind c fun s _ => ?_
  exact .some ⟨rfl, rfl, by simp, Tree.toQuery_orSpace⟩

theorem rangeCondition_reads : rangeCondition.Reads Scan.rangeCondition := by
  intro c
  simp only [rangeCondition, result_node, result_bind, result_pure, result_spaces, Option.bind_some,
    Option.map_bind, Function.comp_def, Option.map_some]
  refine rangeOpening_takes.rel_bind _ fun opening hopening => ?_
  rw [← past_blanks]
  refine word_takes.rel_bind _ fun lower _ => rangeJoiner_takes.rel_bind _ fun joiner _ => ?_
  refine word_takes.rel_bind _ fun upper _ => ?_
  rw [← past_blanks]
  refine rangeClosing_takes.rel_bind _ fun closing hclosing => ?_
  obtain ⟨left, hleft⟩ := Lexeme.exists_opening hopening
  obtain ⟨right, hright⟩ := Lexeme.exists_closing hclosing
  simp only [hleft, hright]
  exact .some ⟨rfl, rfl, by simp, Tree.toQuery_rangeCondition hleft hright⟩

theorem simpleRangeCondition_reads : simpleRangeCondition.Reads Scan.simpleRangeCondition := by
  intro c
  simp only [simpleRangeCondition, result_node, result_bind, result_pure, Option.map_bind,
    Function.comp_def, Option.map_some]
  refine comparison_takes.rel_bind _ fun operand hoperand => word_takes.rel_bind _ fun raw _ => ?_
  obtain ⟨comparison, hcomparison⟩ := Lexeme.exists_comparison hoperand
  simp only [hcomparison]
  exact .some ⟨rfl, rfl, by simp,
    Tree.toQuery_simpleRangeCondition hcomparison Tree.toQuery_terminal⟩

theorem regexCondition_reads : regexCondition.Reads Scan.regexCondition := by
  intro c
  simp only [regexCondition, result_node, result_bind, result_pure, Option.map_bind,
    Function.comp_def, Option.map_some]
  refine (literal_takes _).rel_bind _ fun _ _ => (body_takes _).rel_bind _ fun expression _ => ?_
  refine (literal_takes _).rel_bind _ fun _ _ => ?_
  exact .some ⟨rfl, rfl, by simp, Tree.toQuery_regexCondition⟩

theorem word_reads : word.Reads Scan.detachedCondition := by
  intro c
  rw [← Option.bind_fun_some (word c).result]
  refine word_takes.rel_bind c fun raw _ => ?_
  exact .some ⟨rfl, rfl, by simp, Tree.toQuery_terminal⟩

theorem detachedCondition_reads : detachedCondition.Reads Scan.detachedCondition := by
  intro c
  simp only [detachedCondition, result_node, result_bind, result_pure, Option.map_bind,
    Function.comp_def, Option.map_some]
  refine word_takes.rel_bind c fun raw hraw => ?_
  obtain ⟨rest, hrest⟩ := word_takes.front hraw
  have hslice : c.slice c.offset (c.past raw).offset = raw := by
    apply Cursor.slice_offset _ rfl
    rw [Cursor.past_rest hrest.symm, hrest]
  rw [hslice]
  exact .some ⟨rfl, rfl, by simp, Tree.toQuery_detachedCondition⟩

/-! ## Productions with conditions inside -/

/-- A separator and the condition after it stand for two items, each further on than what comes
before it. -/
structure PairStandsFor (c : Cursor) (found : (Tree × Tree) × Cursor)
    (read : (Query × Query) × Text) : Prop where
  rest : found.2.rest = read.2
  offset : found.1.1.offset = c.offset
  separated : c.offset < found.1.2.offset
  advanced : found.1.2.offset < found.2.offset
  shorter : found.2.rest.length < c.rest.length
  separator : found.1.1.toQuery = .ok read.1.1
  condition : found.1.2.toQuery = .ok read.1.2

section

variable {condition : Reader Tree} {scan : Text → Option (Query × Text)}
  (hadvances : Advances condition) (h : condition.Reads scan)

include h

theorem longNegation_reads : (longNegation condition).Reads (Scan.longNegation scan) := by
  intro c
  simp only [longNegation, result_node, result_bind, result_pure, Option.map_bind,
    Function.comp_def, Option.map_some]
  refine (keyword_takes _).rel_bind _ fun _ _ => whitespace_takes.rel_bind _ fun _ _ => ?_
  refine rel_bind (h _) ?_
  rintro ⟨value, c₁⟩ ⟨q, t₁⟩ - ⟨rfl, -, -, hmeaning⟩
  exact .some ⟨rfl, rfl, by simp, Tree.toQuery_longNegation hmeaning⟩

theorem simpleNegation_reads :
    (simpleNegation condition).Reads (Scan.signed scan .minus) := by
  intro c
  simp only [simpleNegation, result_node, result_bind, result_pure, Option.map_bind,
    Function.comp_def, Option.map_some]
  refine (literal_takes _).rel_bind _ fun _ _ => rel_bind (h _) ?_
  rintro ⟨value, c₁⟩ ⟨q, t₁⟩ - ⟨rfl, -, -, hmeaning⟩
  exact .some ⟨rfl, rfl, by simp, Tree.toQuery_simpleNegation hmeaning⟩

theorem simpleMust_reads : (simpleMust condition).Reads (Scan.signed scan .plus) := by
  intro c
  simp only [simpleMust, result_node, result_bind, result_pure, Option.map_bind,
    Function.comp_def, Option.map_some]
  refine (literal_takes _).rel_bind _ fun _ _ => rel_bind (h _) ?_
  rintro ⟨value, c₁⟩ ⟨q, t₁⟩ - ⟨rfl, -, -, hmeaning⟩
  exact .some ⟨rfl, rfl, by simp, Tree.toQuery_simpleMust hmeaning⟩

include hadvances

theorem separated_rel {separator : Reader Tree} {scanSeparator : Text → Option (Query × Text)}
    (hseparator : separator.Reads scanSeparator) (hadvances' : Advances separator) (c : Cursor) :
    Option.Rel (PairStandsFor c)
      ((do
        let op ← separator
        let next ← condition
        return (op, next) : Reader (Tree × Tree)) c).result
      (Scan.separated scan scanSeparator c.rest) := by
  simp only [result_bind, result_pure]
  refine rel_bind (hseparator c) ?_
  rintro ⟨op, c₁⟩ ⟨qop, t₁⟩ hop ⟨rfl, hoffset, -, hmeaning⟩
  refine rel_bind (h c₁) ?_
  rintro ⟨next, c₂⟩ ⟨q, t₂⟩ hnext ⟨rfl, hoffset', -, hmeaning'⟩
  obtain ⟨hr, hlt⟩ := hadvances' c op c₁ hop
  obtain ⟨hr', hlt'⟩ := hadvances c₁ next c₂ hnext
  refine .some ⟨rfl, hoffset, ?_, ?_, Nat.lt_trans hlt' hlt, hmeaning, hmeaning'⟩
  · exact Nat.lt_of_lt_of_eq (hr.offset_lt hlt) hoffset'.symm
  · exact Nat.lt_of_le_of_lt (Nat.le_of_eq hoffset') (hr'.offset_lt hlt')

theorem continuation_rel (c : Cursor) : Option.Rel (PairStandsFor c)
    (continuation condition c).result (Scan.continuation scan c.rest) := by
  simp only [continuation, result_firstOf_cons, result_firstOf_nil, Option.or_none,
    Scan.continuation]
  exact rel_or (separated_rel hadvances h spacedOperator_reads spacedOperator_advances c)
    (separated_rel hadvances h orSpace_reads orSpace_advances c)

theorem many_reads (c : Cursor) : ∃ pairs c',
    (many (continuation condition) c).result = some (pairs, c') ∧
    c'.rest = (Scan.tail scan c.rest).2 ∧
    (Tree.alternate pairs).map Tree.toQuery = (Scan.tail scan c.rest).1.map .ok ∧
    (Tree.alternate pairs).Pairwise (·.offset < ·.offset) ∧
    ∀ t ∈ Tree.alternate pairs, c.offset ≤ t.offset := by
  induction hn : c.rest.length using Nat.strongRecOn generalizing c with
  | _ n ih =>
    have hstep := continuation_rel hadvances h c
    rw [result_many, Scan.tail]
    revert hstep
    cases (continuation condition c).result with
    | none =>
      cases Scan.continuation scan c.rest with
      | none => exact fun _ => ⟨[], c, rfl, rfl, rfl, .nil, by simp [Tree.alternate]⟩
      | some read => exact fun hstep => nomatch hstep
    | some found =>
      cases Scan.continuation scan c.rest with
      | none => exact fun hstep => nomatch hstep
      | some read =>
        intro hstep
        cases hstep with
        | some hpair =>
          have hlt := hpair.shorter
          obtain ⟨pairs, c', hmany, hrest, hmap, hsorted, hle⟩ := ih _ (hn ▸ hlt) found.2 rfl
          rw [hpair.rest] at hrest hmap
          have hoff := hpair.offset
          have hsep := hpair.separated
          have hadv := hpair.advanced
          refine ⟨found.1 :: pairs, c', ?_, ?_, ?_, ?_, ?_⟩
          · simp only [if_pos hlt, hmany, Option.map_some]
          · simp only [← hpair.rest, if_pos hlt]
            rw [hpair.rest, hrest]
          · simp only [← hpair.rest, if_pos hlt]
            rw [hpair.rest]
            simp only [Tree.alternate, List.flatMap_cons, List.cons_append, List.nil_append,
              List.map_cons, hpair.separator, hpair.condition]
            rw [← Tree.alternate, hmap]
          · refine List.pairwise_cons.mpr ⟨?_, List.pairwise_cons.mpr ⟨?_, hsorted⟩⟩
            · intro t ht
              rcases List.mem_cons.mp ht with rfl | ht
              · omega
              · have := hle t ht
                omega
            · intro t ht
              have := hle t ht
              omega
          · intro t ht
            rcases List.mem_cons.mp ht with rfl | ht
            · omega
            · rcases List.mem_cons.mp ht with rfl | ht
              · omega
              · have := hle t ht
                omega

theorem list_reads : (list condition).Reads (Scan.list scan) := by
  intro c
  simp only [list, result_node, result_bind, result_here, result_many_bind, result_pure,
    Option.bind_some, Option.map_bind, Function.comp_def, Option.map_some]
  simp only [Scan.list, Scan.items, Option.bind_eq_bind, Option.pure_def, Option.bind_assoc,
    Option.bind_some]
  refine rel_bind (h c) ?_
  rintro ⟨first, c₁⟩ ⟨q, t₁⟩ hfirst ⟨rfl, hoffset, hrule, hmeaning⟩
  obtain ⟨pairs, c₂, hmany, hrest, hmap, hsorted, hle⟩ := many_reads hadvances h c₁
  obtain ⟨hr, hlt⟩ := hadvances c first c₁ hfirst
  have hfirst' : ∀ t ∈ Tree.alternate pairs, first.offset < t.offset := by
    intro t ht
    have h₁ := hr.offset_lt hlt
    have h₂ := hle t ht
    simp only at hoffset
    omega
  have hitems : (first :: Tree.alternate pairs).map Tree.toQuery =
      (q :: (Scan.tail scan c₁.rest).1).map .ok := by
    rw [List.map_cons, List.map_cons, hmeaning, hmap]
  obtain ⟨r, hr⟩ : ∃ r, Query.ofItems? (q :: (Scan.tail scan c₁.rest).1) = some r := by
    cases (Scan.tail scan c₁.rest).1 <;> exact ⟨_, rfl⟩
  simp only [hmany, hr, Option.bind_some]
  refine .some ⟨hrest, rfl, by simp, ?_⟩
  exact Tree.toQuery_list hrule (List.pairwise_cons.mpr ⟨hfirst', hsorted⟩) hitems hr c₁ _ _

theorem parented_reads : (parented condition).Reads (Scan.parented scan) := by
  intro c
  simp only [parented, result_node, result_bind, result_pure, result_spaces, Option.bind_some,
    Option.map_bind, Function.comp_def, Option.map_some]
  refine (literal_takes _).rel_bind _ fun opening _ => ?_
  rw [← past_blanks]
  refine rel_bind (list_reads hadvances h _) ?_
  rintro ⟨inner, c₁⟩ ⟨q, t₁⟩ - ⟨rfl, -, -, hmeaning⟩
  rw [← past_blanks]
  refine (literal_takes _).rel_bind _ fun closing _ => ?_
  exact .some ⟨rfl, rfl, by simp, Tree.toQuery_parented hmeaning⟩

theorem value_reads : (value condition).Reads (Scan.value scan) := by
  intro c
  simp only [value, result_firstOf_cons, result_firstOf_nil, Option.or_none, Scan.value]
  exact rel_or (rangeCondition_reads c) (rel_or (simpleRangeCondition_reads c)
    (rel_or (regexCondition_reads c) (rel_or (parented_reads hadvances h c) (word_reads c))))

theorem fieldCondition_reads : (fieldCondition condition).Reads (Scan.fieldCondition scan) := by
  intro c
  simp only [fieldCondition, result_node, result_bind, result_pure, Option.map_bind,
    Function.comp_def, Option.map_some]
  refine term_takes.rel_bind _ fun name _ => (literal_takes _).rel_bind _ fun _ _ => ?_
  refine rel_bind (value_reads hadvances h _) ?_
  rintro ⟨value, c₁⟩ ⟨q, t₁⟩ - ⟨rfl, -, -, hmeaning⟩
  exact .some ⟨rfl, rfl, by simp, Tree.toQuery_fieldCondition hmeaning⟩

theorem conditionWith_reads : (conditionWith condition).Reads (Scan.conditionWith scan) := by
  intro c
  simp only [conditionWith, result_firstOf_cons, result_firstOf_nil, Option.or_none,
    Scan.conditionWith]
  exact rel_or (parented_reads hadvances h c) (rel_or (longNegation_reads h c)
    (rel_or (simpleNegation_reads h c) (rel_or (simpleMust_reads h c)
    (rel_or (fieldCondition_reads hadvances h c) (detachedCondition_reads c)))))

end

/-- What holds of conditions as soon as it holds of the conditions inside them holds of all. -/
theorem condition_rel {R : Cursor → Tree × Cursor → Query × Text → Prop}
    (hstep : ∀ {read : Reader Tree} {scan : Text → Option (Query × Text)}, Advances read →
      (∀ t found, scan t = some found → Scan.condition t = some found) →
      (∀ c, Option.Rel (R c) (read c).result (scan c.rest)) →
      ∀ c, Option.Rel (R c) (conditionWith read c).result (Scan.conditionWith scan c.rest))
    (c : Cursor) : Option.Rel (R c) (condition c).result (Scan.condition c.rest) := by
  induction hn : c.rest.length using Nat.strongRecOn generalizing c with
  | _ n ih =>
    have hadvances : Advances (conditionBelow c.rest.length) := by
      intro c₁ t c₂ ht
      unfold conditionBelow at ht
      split at ht
      · exact condition_advances c₁ t c₂ ht
      · simp at ht
    rw [condition_eq_below, Scan.condition]
    refine hstep hadvances (fun t found h => (Option.ite_none_right_eq_some.mp h).2) (fun c' => ?_) c
    by_cases hlt : c'.rest.length < c.rest.length
    · simp only [conditionBelow, if_pos hlt]
      exact ih _ (hn ▸ hlt) c' rfl
    · simp only [conditionBelow, if_neg hlt]
      exact .none

theorem condition_reads : Reader.Reads condition Scan.condition :=
  condition_rel fun hadvances _ h => conditionWith_reads hadvances h

theorem query_reads : query.Reads Scan.query := by
  intro c
  simp only [query, result_node, result_bind, result_pure, result_spaces, result_endOfInput,
    Option.bind_some, Option.map_bind, Function.comp_def, Option.map_some]
  rw [Scan.query, ← past_blanks]
  refine rel_bind (list_reads condition_advances condition_reads _) ?_
  rintro ⟨inner, c₁⟩ ⟨q, t₁⟩ - ⟨rfl, -, -, hmeaning⟩
  simp only [past_blanks]
  by_cases hend : c₁.rest.dropWhile isSpace = []
  · simp only [if_pos hend, Option.bind_some]
    exact .some ⟨(past_blanks c₁).trans hend, rfl, by simp, Tree.toQuery_query hmeaning⟩
  · simp only [if_neg hend, Option.bind_none]
    exact .none

end Grammar

/-! ## Conditions inside conditions -/

theorem eq_of_standsFor {c : Cursor} {o : Option (Tree × Cursor)} {x y : Option (Query × Text)}
    (hx : Option.Rel (StandsFor c) o x) (hy : Option.Rel (StandsFor c) o y) : x = y := by
  cases hx with
  | none =>
    cases hy
    rfl
  | some hx =>
    cases hy with
    | some hy =>
      have hq := Except.ok.inj (hx.meaning.symm.trans hy.meaning)
      exact congrArg some (Prod.ext hq (hx.rest.symm.trans hy.rest))

namespace Scan

theorem condition_eq (t : Text) : condition t = conditionWith condition t := by
  have h := Grammar.condition_reads (Cursor.start t)
  rw [Grammar.condition_eq] at h
  exact eq_of_standsFor h (Grammar.conditionWith_reads Grammar.condition_advances
    Grammar.condition_reads (Cursor.start t))

theorem condition_shorter {t t' : Text} {q : Query} (h : condition t = some (q, t')) :
    t'.length < t.length := by
  have hrel := Grammar.condition_reads (Cursor.start t)
  rw [show (Cursor.start t).rest = t from rfl, h] at hrel
  generalize hr : (Grammar.condition (Cursor.start t)).result = found at hrel
  cases hrel with
  | some hstands =>
    have hlt := (Grammar.condition_advances _ _ _ hr).2
    rwa [hstands.rest] at hlt

end Scan

/-! ## Parsing -/

/-- A text either gives the query that is read straight from it, or it does not follow the grammar. -/
theorem parse_cases (t : Text) :
    (∃ q rest, Scan.query t = some (q, rest) ∧ parse t = .ok q) ∨
    (Scan.query t = none ∧ ∃ m, parse t = .error (.mismatch m)) := by
  have hrel : Option.Rel (StandsFor (Cursor.start t)) _ (Scan.query t) :=
    Grammar.query_reads (Cursor.start t)
  generalize hread : Scan.query t = read at hrel
  rw [parse, parseTree]
  cases hq : Grammar.query (Cursor.start t) with
  | mk attempts result =>
    rw [hq] at hrel
    cases hrel with
    | none => exact .inr ⟨rfl, _, rfl⟩
    | @some found read hstands =>
      refine .inl ⟨read.1, read.2, rfl, ?_⟩
      change found.1.toQuery.mapError QueryError.unresolved = .ok read.1
      rw [hstands.meaning]
      rfl

end SearchQuery
