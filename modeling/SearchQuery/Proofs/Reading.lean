import SearchQuery.Proofs.Scan
import SearchQuery.Proofs.Spelling

/-! # What is read is spelled -/

namespace SearchQuery

/-! ## Tokens read back -/

@[simp] theorem Operator.ofText?_text {op : Operator} (h : op ≠ .either) :
    Operator.ofText? op.text = some op := by
  cases op with
  | either => exact absurd rfl h
  | _ => rfl

theorem Operator.text_of_ofText? {t : Text} {op : Operator} (h : Operator.ofText? t = some op) :
    op ≠ .either ∧ t = op.text := by
  have htext : op.text = t := by simpa using List.find?_some h
  have hmem := List.mem_of_find?_eq_some h
  refine ⟨?_, htext.symm⟩
  rintro rfl
  simp at hmem

theorem Query.eq_of_isKeyword {q : Query} (h : q.isKeyword) :
    ∃ op : Operator, op ≠ .either ∧ q = .term op.text := by
  cases q with
  | term raw =>
    obtain ⟨op, hop⟩ := Option.isSome_iff_exists.mp h
    obtain ⟨hne, rfl⟩ := Operator.text_of_ofText? hop
    exact ⟨op, hne, rfl⟩
  | _ => simp [Query.isKeyword] at h

@[simp] theorem Edge.ofOpening?_opening (edge : Edge) : Edge.ofOpening? edge.opening = some edge := by
  cases edge <;> rfl

@[simp] theorem Edge.ofClosing?_closing (edge : Edge) : Edge.ofClosing? edge.closing = some edge := by
  cases edge <;> rfl

@[simp] theorem Comparison.ofText?_text (operand : Comparison) :
    Comparison.ofText? operand.text = some operand := by
  cases operand <;> rfl

namespace Scan

open Lexeme

/-! ## Values of fields -/

theorem rangeCondition_sound {t rest : Text} {q : Query} (h : rangeCondition t = some (q, rest)) :
    ∃ s, t = s ++ rest ∧ SpellsValue q s ∧ q.lastWord? = none := by
  simp only [rangeCondition, Option.bind_eq_bind, Option.pure_def, Option.bind_eq_some_iff,
    Prod.exists, split_rangeOpening_iff, split_word_iff, split_rangeJoiner_iff,
    split_rangeClosing_iff] at h
  obtain ⟨_, u, ⟨left, rfl, rfl⟩, lower, v, ⟨hlower, hu, hend⟩, _, w,
    ⟨b₂, b₃, hb₂, hne₂, hb₃, hne₃, rfl, rfl, -⟩, upper, x, ⟨hupper, rfl, hend'⟩, _, rest',
    ⟨right, rfl, hx⟩, left', hleft, right', hright, heq⟩ := h
  obtain rfl : left = left' := by simpa using hleft
  obtain rfl : right = right' := by simpa using hright
  obtain ⟨rfl, rfl⟩ := Prod.mk.inj (Option.some.inj heq)
  obtain ⟨b₁, hb₁, hu'⟩ := exists_blank u
  obtain ⟨b₄, hb₄, hx'⟩ := exists_blank x
  rw [hu] at hu'
  rw [hx] at hx'
  have hclosed : dangling upper = false := by
    apply hend'.closed
    rw [hx']
    cases right <;> simp [Edge.closing]
  refine ⟨_, ?_, .range hlower (hend.closed (by simp [hne₂])) hupper hclosed hb₁ hb₂ hne₂ hb₃ hne₃
    hb₄, rfl⟩
  simp [hu', hx']

theorem rangeCondition_complete {left right : Edge} {lower upper b₁ b₂ b₃ b₄ : Text}
    (hlower : IsWord lower) (hclosed : dangling lower = false)
    (hupper : IsWord upper) (hclosed' : dangling upper = false)
    (h₁ : Blank b₁) (h₂ : Blank b₂) (hne₂ : b₂ ≠ []) (h₃ : Blank b₃) (hne₃ : b₃ ≠ [])
    (h₄ : Blank b₄) (rest : Text) :
    rangeCondition (left.opening ++ (b₁ ++ (lower ++ (b₂ ++ ("TO" ++ (b₃ ++
      (upper ++ (b₄ ++ (right.closing ++ rest))))))))) =
    some (.range left lower upper right, rest) := by
  have hend : atWordEnd (b₄ ++ (right.closing ++ rest)) := by
    by_cases hne : b₄ = []
    · subst hne
      cases right <;> rfl
    · exact atWordEnd_append h₄ hne _
  simp only [rangeCondition, Option.bind_eq_bind, Option.pure_def, Option.bind_eq_some_iff,
    Prod.exists, split_rangeOpening_iff, split_word_iff, split_rangeJoiner_iff,
    split_rangeClosing_iff]
  refine ⟨_, _, ⟨left, rfl, rfl⟩, lower, _,
    ⟨hlower, dropWhile_append h₁ (hlower.starts.append _).trimmed, ?_⟩, _, _,
    ⟨b₂, b₃, h₂, hne₂, h₃, hne₃, rfl, rfl, (hupper.starts.append _).trimmed⟩, upper, _,
    ⟨hupper, rfl, ?_⟩, _, _, ⟨right, rfl, ?_⟩, left, by simp, right, by simp, rfl⟩
  · exact endsWord_of_closed hclosed (atWordEnd_append h₂ hne₂ _)
  · exact endsWord_of_closed hclosed' hend
  · exact dropWhile_append h₄ (Edge.closing_trimmed right rest)

theorem simpleRangeCondition_iff {t rest : Text} {q : Query} :
    simpleRangeCondition t = some (q, rest) ↔ ∃ (operand : Comparison) (raw : Text),
      q = .comparison operand (.term raw) ∧ t = operand.text ++ (raw ++ rest) ∧ IsWord raw ∧
      Comparable operand raw ∧ EndsWord raw rest := by
  simp only [simpleRangeCondition, Option.bind_eq_bind, Option.pure_def, Option.bind_eq_some_iff,
    Prod.exists, split_comparison_iff, split_word_iff]
  -- Whether an equals sign follows shows in the word alone, as there is no empty word.
  have hhead : ∀ {raw : Text}, IsWord raw → (raw ++ rest).head? = raw.head? := by
    intro raw hraw
    obtain ⟨x, raw, rfl, -⟩ := hraw.starts
    rfl
  constructor
  · rintro ⟨_, u, ⟨operand, rfl, rfl, hcomparable⟩, raw, _, ⟨hraw, rfl, hend⟩, operand', hoperand, heq⟩
    obtain rfl : operand = operand' := by simpa using hoperand
    obtain ⟨rfl, rfl⟩ := Prod.mk.inj (Option.some.inj heq)
    rw [Comparable, hhead hraw] at hcomparable
    exact ⟨operand, raw, rfl, rfl, hraw, hcomparable, hend⟩
  · rintro ⟨operand, raw, rfl, rfl, hraw, hcomparable, hend⟩
    rw [Comparable, ← hhead hraw] at hcomparable
    exact ⟨_, _, ⟨operand, rfl, rfl, hcomparable⟩, raw, rest, ⟨hraw, rfl, hend⟩, operand, by simp, rfl⟩

theorem regexCondition_iff {t rest : Text} {q : Query} :
    regexCondition t = some (q, rest) ↔ ∃ expression, q = .regex expression ∧
      IsBody '/' expression ∧ t = "/" ++ (expression ++ ("/" ++ rest)) := by
  simp only [regexCondition, Option.bind_eq_bind, Option.pure_def, Option.bind_eq_some_iff,
    Prod.exists, split_literal_iff, split_body_iff (show '/' ≠ '\\' by decide)]
  constructor
  · rintro ⟨_, _, ⟨rfl, rfl⟩, expression, _, ⟨hbody, after, rfl, rfl⟩, _, _, ⟨rfl, hclose⟩, heq⟩
    obtain ⟨rfl, rfl⟩ := Prod.mk.inj (Option.some.inj heq)
    obtain rfl := (List.cons.inj hclose).2
    exact ⟨expression, rfl, hbody, rfl⟩
  · rintro ⟨expression, rfl, hbody, rfl⟩
    exact ⟨_, _, ⟨rfl, rfl⟩, expression, _, ⟨hbody, rest, rfl, rfl⟩, _, _, ⟨rfl, rfl⟩, rfl⟩

theorem detachedCondition_iff {t rest : Text} {q : Query} :
    detachedCondition t = some (q, rest) ↔
      ∃ raw, q = .term raw ∧ IsWord raw ∧ t = raw ++ rest ∧ EndsWord raw rest := by
  simp only [detachedCondition, Option.bind_eq_bind, Option.pure_def, Option.bind_eq_some_iff,
    Prod.exists, split_word_iff]
  constructor
  · rintro ⟨raw, _, ⟨hraw, ht, hend⟩, heq⟩
    obtain ⟨rfl, rfl⟩ := Prod.mk.inj (Option.some.inj heq)
    exact ⟨raw, rfl, hraw, ht, hend⟩
  · rintro ⟨raw, rfl, hraw, ht, hend⟩
    exact ⟨raw, rest, ⟨hraw, ht, hend⟩, rfl⟩

/-! ## Productions with conditions inside -/

section

variable {condition : Text → Option (Query × Text)} {t rest : Text} {q : Query}

theorem parented_iff : parented condition t = some (q, rest) ↔ ∃ u inner v,
    q = .parenthesized inner ∧ t = "(" ++ u ∧
    list condition (u.dropWhile isSpace) = some (inner, v) ∧ v.dropWhile isSpace = ")" ++ rest := by
  simp only [parented, Option.bind_eq_bind, Option.pure_def, Option.bind_eq_some_iff, Prod.exists,
    split_literal_iff]
  constructor
  · rintro ⟨_, u, ⟨rfl, rfl⟩, inner, v, hinner, _, _, ⟨rfl, hv⟩, heq⟩
    obtain ⟨rfl, rfl⟩ := Prod.mk.inj (Option.some.inj heq)
    exact ⟨u, inner, v, rfl, rfl, hinner, hv⟩
  · rintro ⟨u, inner, v, rfl, rfl, hinner, hv⟩
    exact ⟨_, u, ⟨rfl, rfl⟩, inner, v, hinner, _, rest, ⟨rfl, hv⟩, rfl⟩

theorem longNegation_iff : longNegation condition t = some (q, rest) ↔ ∃ b u value,
    q = .marked .not value ∧ t = Mark.not.text ++ (b ++ u) ∧ Blank b ∧ b ≠ [] ∧ Trimmed u ∧
    condition u = some (value, rest) := by
  simp only [longNegation, Option.bind_eq_bind, Option.pure_def, Option.bind_eq_some_iff,
    Prod.exists, split_keyword_iff, split_whitespace_iff]
  constructor
  · rintro ⟨_, _, ⟨rfl, rfl, -⟩, b, u, ⟨hb, hne, rfl, hu⟩, value, _, hvalue, heq⟩
    obtain ⟨rfl, rfl⟩ := Prod.mk.inj (Option.some.inj heq)
    exact ⟨b, u, value, rfl, rfl, hb, hne, hu, hvalue⟩
  · rintro ⟨b, u, value, rfl, rfl, hb, hne, hu, hvalue⟩
    exact ⟨_, _, ⟨rfl, rfl, atWordEnd_append hb hne u⟩, b, u, ⟨hb, hne, rfl, hu⟩, value, rest, hvalue,
      rfl⟩

theorem signed_iff {mark : Mark} : signed condition mark t = some (q, rest) ↔ ∃ u value,
    q = .marked mark value ∧ t = mark.text ++ u ∧ condition u = some (value, rest) := by
  simp only [signed, Option.bind_eq_bind, Option.pure_def, Option.bind_eq_some_iff, Prod.exists,
    split_literal_iff]
  constructor
  · rintro ⟨_, u, ⟨rfl, rfl⟩, value, _, hvalue, heq⟩
    obtain ⟨rfl, rfl⟩ := Prod.mk.inj (Option.some.inj heq)
    exact ⟨u, value, rfl, rfl, hvalue⟩
  · rintro ⟨u, value, rfl, rfl, hvalue⟩
    exact ⟨_, u, ⟨rfl, rfl⟩, value, rest, hvalue, rfl⟩

theorem fieldCondition_iff : fieldCondition condition t = some (q, rest) ↔ ∃ name u value,
    q = .field name value ∧ IsTerm name ∧ dangling name = false ∧ t = name ++ (":" ++ u) ∧
    Scan.value condition u = some (value, rest) := by
  simp only [fieldCondition, Option.bind_eq_bind, Option.pure_def, Option.bind_eq_some_iff,
    Prod.exists, split_term_iff, split_literal_iff]
  constructor
  · rintro ⟨name, _, ⟨hname, rfl, hend⟩, _, u, ⟨rfl, rfl⟩, value, _, hvalue, heq⟩
    obtain ⟨rfl, rfl⟩ := Prod.mk.inj (Option.some.inj heq)
    exact ⟨name, u, value, rfl, hname, hend.closed (by simp), rfl, hvalue⟩
  · rintro ⟨name, u, value, rfl, hname, hclosed, rfl, hvalue⟩
    exact ⟨name, _, ⟨hname, rfl, endsWord_of_closed hclosed rfl⟩, _, u, ⟨rfl, rfl⟩, value, rest,
      hvalue, rfl⟩

theorem spacedOperator_iff : spacedOperator t = some (q, rest) ↔ ∃ op b u,
    q = .operator op ∧ op ≠ .either ∧ Blank b ∧ t = b ++ (op.text ++ u) ∧ atWordEnd u ∧
    rest = u.dropWhile isSpace := by
  simp only [spacedOperator, Option.bind_eq_bind, Option.pure_def, Option.bind_eq_some_iff,
    Prod.exists, split_operator_iff]
  constructor
  · rintro ⟨_, u, ⟨op, hop, rfl, ht, hend⟩, op', hop', heq⟩
    obtain rfl : op = op' := by simpa [hop] using hop'
    obtain ⟨rfl, rfl⟩ := Prod.mk.inj (Option.some.inj heq)
    obtain ⟨b, hb, ht'⟩ := exists_blank t
    exact ⟨op, b, u, rfl, hop, hb, by rw [ht', ht], hend, rfl⟩
  · rintro ⟨op, b, u, rfl, hop, hb, rfl, hend, rfl⟩
    exact ⟨_, u, ⟨op, hop, rfl, dropWhile_append hb (Operator.starts hop u).trimmed, hend⟩, op,
      by simp [hop], rfl⟩

theorem orSpace_iff : orSpace t = some (q, rest) ↔ ∃ b,
    q = .operator .either ∧ Blank b ∧ b ≠ [] ∧ t = b ++ rest ∧ Trimmed rest := by
  simp only [orSpace, Option.bind_eq_bind, Option.pure_def, Option.bind_eq_some_iff, Prod.exists,
    split_whitespace_iff]
  constructor
  · rintro ⟨b, u, ⟨hb, hne, rfl, hu⟩, heq⟩
    obtain ⟨rfl, rfl⟩ := Prod.mk.inj (Option.some.inj heq)
    exact ⟨b, rfl, hb, hne, rfl, hu⟩
  · rintro ⟨b, rfl, hb, hne, rfl, hu⟩
    exact ⟨b, rest, ⟨hb, hne, rfl, hu⟩, rfl⟩

theorem separated_iff {separator : Text → Option (Query × Text)} {op next : Query} :
    separated condition separator t = some ((op, next), rest) ↔
      ∃ u, separator t = some (op, u) ∧ condition u = some (next, rest) := by
  simp only [separated, Option.bind_eq_bind, Option.pure_def, Option.bind_eq_some_iff, Prod.exists]
  constructor
  · rintro ⟨op, u, hop, next, _, hnext, heq⟩
    obtain ⟨hpair, rfl⟩ := Prod.mk.inj (Option.some.inj heq)
    obtain ⟨rfl, rfl⟩ := Prod.mk.inj hpair
    exact ⟨u, hop, hnext⟩
  · rintro ⟨u, hop, hnext⟩
    exact ⟨op, u, hop, next, rest, hnext, rfl⟩

end

/-! ## Where conditions start -/

theorem condition_iff {t rest : Text} {q : Query} : condition t = some (q, rest) ↔
    parented condition t = some (q, rest) ∨ parented condition t = none ∧
    (longNegation condition t = some (q, rest) ∨ longNegation condition t = none ∧
    (signed condition .minus t = some (q, rest) ∨ signed condition .minus t = none ∧
    (signed condition .plus t = some (q, rest) ∨ signed condition .plus t = none ∧
    (fieldCondition condition t = some (q, rest) ∨ fieldCondition condition t = none ∧
    detachedCondition t = some (q, rest))))) := by
  rw [condition_eq, conditionWith]
  simp only [Option.or_eq_some_iff]

theorem value_iff {t rest : Text} {q : Query} : value condition t = some (q, rest) ↔
    rangeCondition t = some (q, rest) ∨ rangeCondition t = none ∧
    (simpleRangeCondition t = some (q, rest) ∨ simpleRangeCondition t = none ∧
    (regexCondition t = some (q, rest) ∨ regexCondition t = none ∧
    (parented condition t = some (q, rest) ∨ parented condition t = none ∧
    detachedCondition t = some (q, rest)))) := by
  rw [value]
  simp only [Option.or_eq_some_iff]

theorem starts_of_condition {t rest : Text} {q : Query} (h : condition t = some (q, rest)) :
    Starts t := by
  rcases condition_iff.mp h with h | ⟨-, h | ⟨-, h | ⟨-, h | ⟨-, h | ⟨-, h⟩⟩⟩⟩⟩
  · obtain ⟨u, _, _, -, rfl, -⟩ := parented_iff.mp h
    exact ⟨'(', u, rfl, rfl⟩
  · obtain ⟨_, _, _, -, rfl, -⟩ := longNegation_iff.mp h
    exact Mark.starts _ _
  · obtain ⟨_, _, -, rfl, -⟩ := signed_iff.mp h
    exact Mark.starts _ _
  · obtain ⟨_, _, -, rfl, -⟩ := signed_iff.mp h
    exact Mark.starts _ _
  · obtain ⟨_, _, _, -, hname, -, rfl, -⟩ := fieldCondition_iff.mp h
    exact hname.starts.append _
  · obtain ⟨_, -, hraw, rfl, -⟩ := detachedCondition_iff.mp h
    exact hraw.starts.append _

theorem condition_eq_none {t : Text} (h : ¬ Starts t) : condition t = none := by
  rw [Option.eq_none_iff_forall_ne_some]
  exact fun found hfound => h (starts_of_condition hfound)

theorem exists_condition {t : Text} (h : ∃ x ∈ t.head?, isTermStart x) :
    ∃ found, condition t = some found := by
  obtain ⟨raw, rest, hraw, ht, hend⟩ := exists_term h
  have hdetached := detachedCondition_iff.mpr ⟨raw, rfl, .inr hraw, ht, hend⟩
  rw [← Option.isSome_iff_exists, condition_eq, conditionWith, hdetached]
  simp

/-! ## Separators -/

theorem continuation_iff {t rest : Text} {op next : Query} :
    continuation condition t = some ((op, next), rest) ↔
      separated condition spacedOperator t = some ((op, next), rest) ∨
      separated condition spacedOperator t = none ∧
        separated condition orSpace t = some ((op, next), rest) := by
  rw [continuation, Option.or_eq_some_iff]

theorem separated_shorter {separator : Text → Option (Query × Text)} {t rest : Text}
    {pair : Query × Query} (hseparator : ∀ q u, separator t = some (q, u) → u.length ≤ t.length)
    (h : separated condition separator t = some (pair, rest)) : rest.length < t.length := by
  obtain ⟨u, hop, hnext⟩ := separated_iff.mp h
  exact Nat.lt_of_lt_of_le (condition_shorter hnext) (hseparator _ _ hop)

theorem continuation_shorter {t rest : Text} {pair : Query × Query}
    (h : continuation condition t = some (pair, rest)) : rest.length < t.length := by
  rcases continuation_iff.mp h with h | ⟨-, h⟩
  · refine separated_shorter (fun q u hop => ?_) h
    obtain ⟨op, b, v, -, -, -, rfl, -, rfl⟩ := spacedOperator_iff.mp hop
    have hle : (v.dropWhile isSpace).length ≤ v.length := (List.dropWhile_sublist isSpace).length_le
    simp only [List.length_append]
    omega
  · refine separated_shorter (fun q u hop => ?_) h
    obtain ⟨b, -, -, -, rfl, -⟩ := orSpace_iff.mp hop
    simp

theorem tail_eq (t : Text) : tail condition t =
    match continuation condition t with
    | none => ([], t)
    | some found =>
      (found.1.1 :: found.1.2 :: (tail condition found.2).1, (tail condition found.2).2) := by
  rw [tail]
  cases h : continuation condition t with
  | none => rfl
  | some found => exact if_pos (continuation_shorter h)

theorem continuation_eq_none {t : Text} (h : condition (t.dropWhile isSpace) = none) :
    continuation condition t = none := by
  rw [Option.eq_none_iff_forall_ne_some]
  rintro ⟨⟨op, next⟩, rest⟩ hfound
  rcases continuation_iff.mp hfound with hfound | ⟨-, hfound⟩
  · obtain ⟨u, hop, -⟩ := separated_iff.mp hfound
    obtain ⟨op, b, v, -, hne, hb, rfl, -, -⟩ := spacedOperator_iff.mp hop
    -- The operator is itself a condition.
    rw [dropWhile_append hb (Operator.starts hne v).trimmed] at h
    obtain ⟨found, hfound⟩ := exists_condition ((Operator.isTerm hne).head?_append v)
    simp [h] at hfound
  · obtain ⟨u, hop, hnext⟩ := separated_iff.mp hfound
    obtain ⟨b, -, hb, -, rfl, hu⟩ := orSpace_iff.mp hop
    rw [dropWhile_append hb hu, hnext] at h
    simp at h

theorem continuation_of_trimmed {t : Text} (ht : Trimmed t) (hend : atWordEnd t) :
    continuation condition t = none := by
  have hnil : ∀ {b u : Text}, Blank b → t = b ++ u → b = [] := by
    rintro (_ | ⟨x, b⟩) u hb rfl
    · rfl
    · have hx := ht x rfl
      simp [hb x (by simp)] at hx
  rw [Option.eq_none_iff_forall_ne_some]
  rintro ⟨⟨op, next⟩, rest⟩ hfound
  rcases continuation_iff.mp hfound with hfound | ⟨-, hfound⟩
  · obtain ⟨u, hop, -⟩ := separated_iff.mp hfound
    obtain ⟨op, b, v, -, hne, hb, rfl, -, -⟩ := spacedOperator_iff.mp hop
    obtain rfl := hnil hb rfl
    rw [List.nil_append, (Operator.isTerm hne).not_atWordEnd] at hend
    simp at hend
  · obtain ⟨u, hop, -⟩ := separated_iff.mp hfound
    obtain ⟨b, -, hb, hne, rfl, -⟩ := orSpace_iff.mp hop
    exact hne (hnil hb rfl)

theorem items_iff {t rest : Text} {items : List Query} :
    Scan.items condition t = some (items, rest) ↔ ∃ first u, condition t = some (first, u) ∧
      items = first :: (tail condition u).1 ∧ rest = (tail condition u).2 := by
  simp only [Scan.items, Option.bind_eq_bind, Option.pure_def, Option.bind_eq_some_iff, Prod.exists]
  constructor
  · rintro ⟨first, u, hfirst, heq⟩
    obtain ⟨rfl, rfl⟩ := Prod.mk.inj (Option.some.inj heq)
    exact ⟨first, u, hfirst, rfl, rfl⟩
  · rintro ⟨first, u, hfirst, rfl, rfl⟩
    exact ⟨first, u, hfirst, rfl⟩

theorem list_iff {t rest : Text} {q : Query} :
    list condition t = some (q, rest) ↔
      ∃ items, Scan.items condition t = some (items, rest) ∧ Query.ofItems? items = some q := by
  simp only [list, Option.bind_eq_bind, Option.pure_def, Option.bind_eq_some_iff, Prod.exists]
  constructor
  · rintro ⟨items, _, hitems, q, hq, heq⟩
    obtain ⟨rfl, rfl⟩ := Prod.mk.inj (Option.some.inj heq)
    exact ⟨items, hitems, hq⟩
  · rintro ⟨items, hitems, hq⟩
    exact ⟨items, rest, hitems, q, hq, rfl⟩

/-! ## From readings to spellings -/

/-- A word that was not read as a condition behind a sign cannot be read so. -/
theorem signFree_of_signed {raw after : Text} (hraw : IsWord raw)
    (hminus : signed condition .minus (raw ++ after) = none)
    (hplus : signed condition .plus (raw ++ after) = none) : SignFree raw := by
  rintro mark hmark r rfl x hx
  have hnone : condition (r ++ after) = none := by
    rw [Option.eq_none_iff_forall_ne_some]
    rintro ⟨value, rest⟩ hvalue
    have hsigned : signed condition mark (mark.text ++ r ++ after) = some (.marked mark value, rest) :=
      signed_iff.mpr ⟨_, value, rfl, List.append_assoc .., hvalue⟩
    cases mark with
    | not => exact hmark rfl
    | plus => exact Option.eq_none_iff_forall_ne_some.mp hplus _ hsigned
    | minus => exact Option.eq_none_iff_forall_ne_some.mp hminus _ hsigned
  have hchar : isTermChar x := by
    refine hraw.isTermChar_after ?_ ?_ x hx
    · cases mark <;> decide
    · cases mark with
      | not => exact absurd rfl hmark
      | plus => exact ⟨'+', rfl, by decide⟩
      | minus => exact ⟨'-', rfl, by decide⟩
  refine Decidable.byContradiction fun hslash => ?_
  obtain ⟨r, rfl⟩ := List.head?_eq_some_iff.mp hx
  obtain ⟨found, hfound⟩ := exists_condition (t := x :: r ++ after)
    ⟨x, rfl, by simp [isTermStart, hchar, hslash]⟩
  exact Option.eq_none_iff_forall_ne_some.mp hnone _ hfound

theorem comparisonFree_of_simpleRange {raw after : Text} (hraw : IsWord raw)
    (hnone : simpleRangeCondition (raw ++ after) = none) : ComparisonFree raw := by
  intro s r hsplit x hx
  obtain ⟨operand, rfl, rfl, hcomparable⟩ := split_comparison_iff.mp hsplit
  have hchar : isTermChar x := by
    refine hraw.isTermChar_after ?_ ?_ x hx
    · cases operand <;> decide
    · cases operand with
      | greater | greaterEqual => exact ⟨'>', rfl, by decide⟩
      | less | lessEqual => exact ⟨'<', rfl, by decide⟩
  refine Decidable.byContradiction fun hslash => ?_
  obtain ⟨r, rfl⟩ := List.head?_eq_some_iff.mp hx
  obtain ⟨raw, rest, hterm, heq, hend⟩ := exists_term (t := x :: r ++ after)
    ⟨x, rfl, by simp [isTermStart, hchar, hslash]⟩
  have hcomparable' : Comparable operand raw := by
    cases raw with
    | nil => exact absurd rfl hterm.ne_nil
    | cons y raw =>
      obtain rfl : x = y := (List.cons.inj heq).1
      exact hcomparable
  exact Option.eq_none_iff_forall_ne_some.mp hnone _ (simpleRangeCondition_iff.mpr
    ⟨operand, raw, rfl, by rw [List.append_assoc, heq], .inr hterm, hcomparable', hend⟩)

theorem alternative_of_condition {t rest : Text} {q : Query} (h : condition t = some (q, rest)) :
    (∀ inner, q = .parenthesized inner → parented condition t = some (q, rest)) ∧
    (∀ value, q = .marked .not value → longNegation condition t = some (q, rest)) := by
  rcases condition_iff.mp h with h | ⟨-, h | ⟨-, h | ⟨-, h | ⟨-, h | ⟨-, h⟩⟩⟩⟩⟩
  · obtain ⟨_, _, _, rfl, -⟩ := parented_iff.mp h
    exact ⟨fun _ _ => h, nofun⟩
  · obtain ⟨_, _, _, rfl, -⟩ := longNegation_iff.mp h
    exact ⟨nofun, fun _ _ => h⟩
  · obtain ⟨_, _, rfl, -⟩ := signed_iff.mp h
    exact ⟨nofun, nofun⟩
  · obtain ⟨_, _, rfl, -⟩ := signed_iff.mp h
    exact ⟨nofun, nofun⟩
  · obtain ⟨_, _, _, rfl, -⟩ := fieldCondition_iff.mp h
    exact ⟨nofun, nofun⟩
  · obtain ⟨_, rfl, -⟩ := detachedCondition_iff.mp h
    exact ⟨nofun, nofun⟩

theorem condition_after_operator {op : Operator} {b u : Text} (hop : op ≠ .either) (hb : Blank b)
    (hend : atWordEnd u) (h : separated condition spacedOperator (b ++ (op.text ++ u)) = none) :
    condition (u.dropWhile isSpace) = none := by
  rw [Option.eq_none_iff_forall_ne_some]
  rintro ⟨next, rest⟩ hnext
  have hspaced := spacedOperator_iff.mpr ⟨op, b, u, rfl, hop, hb, rfl, hend, rfl⟩
  exact Option.eq_none_iff_forall_ne_some.mp h _ (separated_iff.mpr ⟨_, hspaced, hnext⟩)

/-- The query was read where this spelling of it ends. -/
structure Reading (q : Query) (s rest : Text) : Prop where
  spells : Spells [q] s
  endsWord : ∀ word ∈ q.lastWord?, EndsWord word rest
  last : q.endsNot → continuation condition rest = none

/-- What is read at the front of the text is spelled there. -/
def Sound (t : Text) : Prop :=
  ∀ q rest, condition t = some (q, rest) → ∃ s, t = s ++ rest ∧ Reading q s rest

/-! ### One step of a list -/

section

variable {first next : Query} {later : List Query} {s u w s' rest : Text}

theorem Reading.closed (h : Reading first s u) (hne : u ≠ []) : Closed [first] :=
  closed_singleton.mpr fun word hword => (h.endsWord word hword).closed hne

theorem Reading.endsNot_eq_false {found : (Query × Query) × Text} (h : Reading first s u)
    (hcont : continuation condition u = some found) : first.endsNot = false := by
  rw [← Bool.not_eq_true]
  exact fun hends => Option.eq_none_iff_forall_ne_some.mp (h.last hends) _ hcont

theorem Reading.glued {op : Operator} {b x : Text} (h : Reading first s (b ++ (op.text ++ x)))
    (hop : op ≠ .either) (hnil : b = []) : first.lastWord? = none := by
  subst hnil
  rw [Option.eq_none_iff_forall_ne_some]
  intro word hword
  have hend := (h.endsWord word hword).1
  rw [List.nil_append, (Operator.isTerm hop).not_atWordEnd] at hend
  simp at hend

theorem Reading.spells_operator {op : Operator} {b x : Text}
    (h : Reading first s (b ++ (op.text ++ x))) (hclosed : Closed [first])
    (hnot : first.endsNot = false) (hop : op ≠ .either) (hb : Blank b) (hend : atWordEnd x)
    (hx : x.dropWhile isSpace = s' ++ rest) (hlater : Spells (next :: later) s') :
    ∃ t, s ++ (b ++ (op.text ++ x)) = t ++ rest ∧
      Spells (first :: .operator op :: next :: later) t := by
  obtain ⟨b', hb', hx'⟩ := exists_blank x
  rw [hx] at hx'
  refine ⟨_, ?_, .operator hop h.spells hclosed hnot hb (h.glued hop) hb' ?_ hlater⟩
  · simp [hx']
  · rintro rfl
    rwa [hx', List.nil_append, hlater.starts.atWordEnd_append] at hend

/-- After blanks alone there is no negation: an operator `NOT` with a condition after it would have
been read first. -/
theorem ne_marked_not {b v : Text} (hb : Blank b)
    (hnone : separated condition spacedOperator (b ++ v) = none)
    (hnext : condition v = some (next, w)) (value : Query) : next ≠ .marked .not value := by
  rintro rfl
  obtain ⟨b', u, _, -, rfl, hb', hne', hu, hvalue⟩ :=
    longNegation_iff.mp ((alternative_of_condition hnext).2 value rfl)
  have hop : Operator.not ≠ .either := by simp
  have hafter := condition_after_operator hop hb (atWordEnd_append hb' hne' u) hnone
  rw [dropWhile_append hb' hu] at hafter
  exact Option.eq_none_iff_forall_ne_some.mp hafter _ hvalue

/-- A word that is spelled like an operator was not read as one, so no condition follows it. -/
theorem condition_after_keyword {b v : Text} (hb : Blank b)
    (hnone : separated condition spacedOperator (b ++ v) = none) (hsound : Sound v)
    (hnext : condition v = some (next, w)) (hkeyword : next.isKeyword) :
    ∃ op : Operator, op ≠ .either ∧ next = .term op.text ∧ v = op.text ++ w ∧
      condition (w.dropWhile isSpace) = none := by
  obtain ⟨op, hop, rfl⟩ := Query.eq_of_isKeyword hkeyword
  obtain ⟨raw, rfl, hreading⟩ := hsound _ _ hnext
  obtain rfl := hreading.spells.eq_of_term
  have hend : atWordEnd w := (hreading.endsWord _ rfl).1
  exact ⟨op, hop, rfl, rfl, condition_after_operator hop hb hend hnone⟩

theorem Reading.spells_either {b v : Text} (h : Reading first s (b ++ v)) (hclosed : Closed [first])
    (hnot : first.endsNot = false) (hb : Blank b) (hne : b ≠ [])
    (hnone : separated condition spacedOperator (b ++ v) = none) (hsound : Sound v)
    (hnext : condition v = some (next, w)) (hv : v = s' ++ rest)
    (hlater : Spells (next :: (tail condition w).1) s') : ∃ t, s ++ (b ++ v) = t ++ rest ∧
      Spells (first :: .operator .either :: next :: (tail condition w).1) t := by
  refine ⟨_, ?_, .either h.spells hclosed hnot hb hne (ne_marked_not hb hnone hnext) ?_ hlater⟩
  · simp [hv]
  · intro hkeyword
    obtain ⟨_, _, _, _, hafter⟩ := condition_after_keyword hb hnone hsound hnext hkeyword
    rw [tail_eq, continuation_eq_none hafter]

end

/-! ### Lists and conditions -/

section

variable {n : Nat} (hsound : ∀ t : Text, t.length < n → Sound t)

include hsound

theorem items_sound {t rest : Text} {items : List Query} (hlt : t.length < n)
    (h : Scan.items condition t = some (items, rest)) : ∃ s, t = s ++ rest ∧ Spells items s ∧
      ∀ last ∈ items.getLast?, ∀ word ∈ last.lastWord?, EndsWord word rest := by
  induction hm : t.length using Nat.strongRecOn generalizing t rest items with
  | _ m ih =>
    obtain ⟨first, u, hfirst, rfl, rfl⟩ := items_iff.mp h
    obtain ⟨s, rfl, hreading⟩ := hsound t hlt first u hfirst
    rw [tail_eq]
    cases hcont : continuation condition u with
    | none => exact ⟨s, rfl, hreading.spells, by simpa using hreading.endsWord⟩
    | some found =>
      obtain ⟨⟨op, next⟩, w⟩ := found
      have hu : u ≠ [] := by
        rintro rfl
        exact absurd (continuation_shorter hcont) (Nat.not_lt_zero _)
      have hclosed := hreading.closed hu
      have hnot := hreading.endsNot_eq_false hcont
      have hs : 0 < s.length := List.length_pos_iff.mpr hreading.spells.starts.ne_nil
      have hshorter : ∀ v : Text, v.length ≤ u.length → v.length < m := by
        intro v hle
        simp only [List.length_append] at hm
        omega
      rcases continuation_iff.mp hcont with hpair | ⟨hnone, hpair⟩
      · obtain ⟨v, hspaced, hnext⟩ := separated_iff.mp hpair
        obtain ⟨op, b, x, rfl, hop, hb, rfl, hend, rfl⟩ := spacedOperator_iff.mp hspaced
        have hle := (List.dropWhile_sublist (l := x) isSpace).length_le
        have hlt' := hshorter (x.dropWhile isSpace) (by simp only [List.length_append]; omega)
        obtain ⟨s', hx, hlater, hlast⟩ := ih _ hlt' (by omega)
          (items_iff.mpr ⟨next, w, hnext, rfl, rfl⟩) rfl
        obtain ⟨t, ht, hspells⟩ := hreading.spells_operator hclosed hnot hop hb hend hx hlater
        exact ⟨t, ht, hspells, by simpa using hlast⟩
      · obtain ⟨v, hspace, hnext⟩ := separated_iff.mp hpair
        obtain ⟨b, rfl, hb, hne, rfl, -⟩ := orSpace_iff.mp hspace
        have hlt' := hshorter v (by simp)
        obtain ⟨s', hv, hlater, hlast⟩ := ih _ hlt' (by omega)
          (items_iff.mpr ⟨next, w, hnext, rfl, rfl⟩) rfl
        obtain ⟨t, ht, hspells⟩ := hreading.spells_either hclosed hnot hb hne hnone
          (hsound v (by omega)) hnext hv hlater
        exact ⟨t, ht, hspells, by simpa using hlast⟩

theorem parented_sound {t rest : Text} {q : Query} (hle : t.length ≤ n)
    (h : parented condition t = some (q, rest)) :
    ∃ s inner, q = .parenthesized inner ∧ t = s ++ rest ∧ Spells [q] s := by
  obtain ⟨u, inner, v, rfl, rfl, hlist, hv⟩ := parented_iff.mp h
  obtain ⟨items, hitems, hinner⟩ := list_iff.mp hlist
  obtain ⟨b₁, hb₁, hu⟩ := exists_blank u
  obtain ⟨b₂, hb₂, hv'⟩ := exists_blank v
  have hlt : (u.dropWhile isSpace).length < n := by
    have hlen := congrArg List.length hu
    have hopen : ("(" ++ u : Text).length = u.length + 1 := rfl
    simp only [List.length_append] at hlen
    omega
  obtain ⟨s, hs, hspells, hlast⟩ := items_sound hsound hlt hitems
  have hclosed : Closed items := by
    intro last hmem word hword
    refine (hlast last hmem word hword).closed ?_
    rintro rfl
    simp at hv
  refine ⟨_, inner, rfl, ?_, .parenthesized hspells hclosed hinner hb₁ hb₂⟩
  rw [hs] at hu
  rw [hv] at hv'
  simp [hu, hv']

theorem value_sound {t rest : Text} {q : Query} (hle : t.length ≤ n)
    (h : value condition t = some (q, rest)) : ∃ s, t = s ++ rest ∧
      (SpellsValue q s ∨ ∃ inner, q = .parenthesized inner ∧ Spells [q] s) ∧
      ∀ word ∈ q.lastWord?, EndsWord word rest := by
  rcases value_iff.mp h with h | ⟨-, h | ⟨hcomparison, h | ⟨-, h | ⟨-, h⟩⟩⟩⟩
  · obtain ⟨s, ht, hs, hnone⟩ := rangeCondition_sound h
    exact ⟨s, ht, .inl hs, by simp [hnone]⟩
  · obtain ⟨operand, raw, rfl, rfl, hraw, hcomparable, hend⟩ := simpleRangeCondition_iff.mp h
    refine ⟨_, (List.append_assoc ..).symm, .inl (.comparison hraw hcomparable), ?_⟩
    simpa [Query.lastWord?] using hend
  · obtain ⟨expression, rfl, hbody, rfl⟩ := regexCondition_iff.mp h
    exact ⟨_, by simp, .inl (.regex hbody), by simp [Query.lastWord?]⟩
  · obtain ⟨s, inner, rfl, ht, hs⟩ := parented_sound hsound hle h
    exact ⟨s, ht, .inr ⟨inner, rfl, hs⟩, by simp [Query.lastWord?]⟩
  · obtain ⟨raw, rfl, hraw, rfl, hend⟩ := detachedCondition_iff.mp h
    refine ⟨raw, rfl, .inl (.word hraw (comparisonFree_of_simpleRange hraw hcomparison)), ?_⟩
    simpa [Query.lastWord?] using hend

end

/-- A bare `NOT` ends its list: a condition after it would have been negated. -/
theorem continuation_after_not {rest : Text} (hend : atWordEnd rest)
    (h : longNegation condition (Mark.not.text ++ rest) = none) :
    continuation condition rest = none := by
  obtain ⟨b, hb, hrest⟩ := exists_blank rest
  by_cases hne : b = []
  · subst hne
    refine continuation_of_trimmed ?_ hend
    rw [hrest]
    exact trimmed_dropWhile rest
  · apply continuation_eq_none
    rw [Option.eq_none_iff_forall_ne_some]
    rintro ⟨value, rest'⟩ hvalue
    exact Option.eq_none_iff_forall_ne_some.mp h _ (longNegation_iff.mpr ⟨b, _, value, rfl,
      by rw [← hrest], hb, hne, trimmed_dropWhile rest, hvalue⟩)

theorem condition_sound (t : Text) : Sound t := by
  induction hn : t.length using Nat.strongRecOn generalizing t with
  | _ n ih =>
    have hsound : ∀ t : Text, t.length < n → Sound t := fun t hlt => ih _ hlt t rfl
    intro q rest h
    rcases condition_iff.mp h with h | ⟨-, h | ⟨hnegation, h | ⟨hminus, h | ⟨hplus, h | ⟨-, h⟩⟩⟩⟩⟩
    · obtain ⟨s, inner, rfl, ht, hs⟩ := parented_sound hsound (Nat.le_of_eq hn) h
      exact ⟨s, ht, hs, by simp [Query.lastWord?], by simp [Query.endsNot]⟩
    · obtain ⟨b, u, value, rfl, rfl, hb, hne, -, hvalue⟩ := longNegation_iff.mp h
      have hlt : u.length < n := by
        rw [← hn, ← List.append_assoc, List.length_append]
        exact Nat.lt_add_of_pos_left (by simp [Mark.text])
      obtain ⟨s, rfl, hreading⟩ := hsound u hlt value rest hvalue
      exact ⟨_, by simp, .negated hreading.spells hb hne, hreading.endsWord, hreading.last⟩
    · obtain ⟨u, value, rfl, rfl, hvalue⟩ := signed_iff.mp h
      have hlt : u.length < n := hn ▸ Nat.lt_succ_self u.length
      obtain ⟨s, rfl, hreading⟩ := hsound u hlt value rest hvalue
      exact ⟨_, by simp, .signed Mark.noConfusion hreading.spells, hreading.endsWord, hreading.last⟩
    · obtain ⟨u, value, rfl, rfl, hvalue⟩ := signed_iff.mp h
      have hlt : u.length < n := hn ▸ Nat.lt_succ_self u.length
      obtain ⟨s, rfl, hreading⟩ := hsound u hlt value rest hvalue
      exact ⟨_, by simp, .signed Mark.noConfusion hreading.spells, hreading.endsWord, hreading.last⟩
    · obtain ⟨name, u, value, rfl, hname, hclosed, rfl, hvalue⟩ := fieldCondition_iff.mp h
      have hfree : SignFree name := signFree_of_signed (.inr hname) hminus hplus
      have hle : u.length ≤ n := by
        rw [← hn, ← List.append_assoc, List.length_append]
        exact Nat.le_add_left ..
      obtain ⟨s, rfl, hs | ⟨inner, rfl, hs⟩, hend⟩ := value_sound hsound hle hvalue
      · exact ⟨_, by simp, .field hname hclosed hfree hs, hend, by simp [Query.endsNot]⟩
      · exact ⟨_, by simp, .fieldParenthesized hname hclosed hfree hs, hend, by simp [Query.endsNot]⟩
    · obtain ⟨raw, rfl, hraw, rfl, hend⟩ := detachedCondition_iff.mp h
      refine ⟨raw, rfl, .word hraw (signFree_of_signed hraw hminus hplus), ?_, ?_⟩
      · simpa [Query.lastWord?] using hend
      · intro hnot
        obtain rfl : raw = Mark.not.text := of_decide_eq_true hnot
        exact continuation_after_not hend.1 hnegation

end Scan

end SearchQuery
