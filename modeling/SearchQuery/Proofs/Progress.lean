import SearchQuery.Proofs.Lexeme

/-! # Readers move forward -/

namespace SearchQuery

namespace Reader

variable {α β : Type}

/-! ## Readers that take something -/

/-- Whatever is read, the cursor after it lies further on, with less text left. -/
def Advances (read : Reader α) : Prop :=
  ∀ c a c', (read c).result = some (a, c') → c.Reaches c' ∧ c'.rest.length < c.rest.length

theorem Advances.forward {read : Reader α} (h : Advances read) : Forward read :=
  fun c a c' ha => (h c a c' ha).1

theorem Takes.advances {read : Reader Tree} {rule : Rule} {take : Text → Option Text}
    (h : read.Takes rule take) (hne : ∀ t, take t ≠ some []) : Advances read := by
  intro c t c' ht
  refine ⟨h.forward c t c' ht, ?_⟩
  rw [h.result] at ht
  obtain ⟨s, hs, heq⟩ := Option.map_eq_some_iff.mp ht
  simp only [Prod.mk.injEq] at heq
  obtain ⟨rest, hrest⟩ := h.front hs
  have hpos : 0 < s.length := by
    apply List.length_pos_iff.mpr
    rintro rfl
    exact hne _ hs
  rw [← heq.2, Cursor.past_rest hrest.symm, ← hrest, List.length_append]
  simp only
  omega

theorem Advances.bind {read : Reader α} {next : α → Reader β} (h : Advances read)
    (hnext : ∀ a, Forward (next a)) : Advances (read >>= next) := by
  intro c b c' hb
  simp only [result_bind, Option.bind_eq_some_iff] at hb
  obtain ⟨⟨a, c₁⟩, ha, hb⟩ := hb
  obtain ⟨hr, hlt⟩ := h c a c₁ ha
  have hr' := hnext a c₁ b c' hb
  exact ⟨hr.trans hr', Nat.lt_of_le_of_lt hr'.length_le hlt⟩

theorem Forward.bind_advances {read : Reader α} {next : α → Reader β} (h : Forward read)
    (hnext : ∀ a, Advances (next a)) : Advances (read >>= next) := by
  intro c b c' hb
  simp only [result_bind, Option.bind_eq_some_iff] at hb
  obtain ⟨⟨a, c₁⟩, ha, hb⟩ := hb
  have hr := h c a c₁ ha
  obtain ⟨hr', hlt⟩ := hnext a c₁ b c' hb
  exact ⟨hr.trans hr', Nat.lt_of_lt_of_le hlt hr.length_le⟩

theorem Advances.node {children : Reader (List Tree)} (rule : Rule) (h : Advances children) :
    Advances (node rule children) := by
  intro c t c' ht
  simp only [result_node, Option.map_eq_some_iff] at ht
  obtain ⟨⟨trees, c₁⟩, hc, heq⟩ := ht
  simp only [Prod.mk.injEq] at heq
  rw [← heq.2]
  exact h c trees c₁ hc

theorem advances_firstOf {reads : List (Reader α)} (h : ∀ read ∈ reads, Advances read) :
    Advances (firstOf reads) := by
  induction reads with
  | nil =>
    intro c a c' ha
    simp at ha
  | cons read others ih =>
    intro c a c' ha
    simp only [result_firstOf_cons, Option.or_eq_some_iff] at ha
    rcases ha with ha | ⟨-, ha⟩
    · exact h read (by simp) c a c' ha
    · exact ih (fun r hr => h r (by simp [hr])) c a c' ha

/-! ## Readers that agree on short texts -/

/-- The two readers do the same wherever fewer than `n` characters are left. -/
def Agree (n : Nat) (read read' : Reader α) : Prop := ∀ c, c.rest.length < n → read c = read' c

theorem agree_refl (n : Nat) (read : Reader α) : Agree n read read := fun _ _ => rfl

theorem bind_congr {read read' : Reader α} {next next' : α → Reader β} {c : Cursor}
    (h : read c = read' c)
    (hnext : ∀ a c', (read c).result = some (a, c') → next a c' = next' a c') :
    (read >>= next) c = (read' >>= next') c := by
  cases hr : read c with
  | mk tried result =>
    cases result with
    | none => rw [bind_of_none hr, bind_of_none (h.symm.trans hr)]
    | some found => rw [bind_of_some hr, bind_of_some (h.symm.trans hr), hnext _ _ (by rw [hr])]

theorem Agree.bind {n : Nat} {read read' : Reader α} {next next' : α → Reader β}
    (h : Agree n read read') (hf : Forward read) (hnext : ∀ a, Agree n (next a) (next' a)) :
    Agree n (read >>= next) (read' >>= next') := by
  intro c hc
  apply bind_congr (h c hc)
  intro a c' ha
  have := (hf c a c' ha).length_le
  exact hnext a c' (by omega)

/-- After a reader that takes something, agreement is needed on shorter texts only. -/
theorem Advances.agree_bind {n : Nat} {read : Reader α} {next next' : α → Reader β}
    (h : Advances read) (hnext : ∀ a, Agree n (next a) (next' a)) :
    Agree (n + 1) (read >>= next) (read >>= next') := by
  intro c hc
  apply bind_congr rfl
  intro a c' ha
  have := (h c a c' ha).2
  exact hnext a c' (by omega)

theorem Agree.node {n : Nat} {children children' : Reader (List Tree)} (rule : Rule)
    (h : Agree n children children') : Agree n (node rule children) (node rule children') := by
  intro c hc
  simp only [Reader.node, h c hc]

theorem agree_firstOf_cons {n : Nat} {read read' : Reader α} {others others' : List (Reader α)}
    (h : Agree n read read') (hothers : Agree n (firstOf others) (firstOf others')) :
    Agree n (firstOf (read :: others)) (firstOf (read' :: others')) := by
  intro c hc
  simp only [firstOf, h c hc, hothers c hc]

theorem Agree.many {n : Nat} {read read' : Reader α} (h : Agree n read read') :
    Agree n (many read) (many read') := by
  intro c hc
  induction hlen : c.rest.length using Nat.strongRecOn generalizing c with
  | _ k ih =>
    rw [Reader.many, Reader.many, ← h c hc]
    split
    · rfl
    · rename_i a c' _
      split
      · rename_i hlt
        rw [ih _ (hlen ▸ hlt) c' (by omega) rfl]
      · rfl

end Reader

/-! ## Lexemes that are never empty -/

namespace Lexeme

theorem literal_ne_nil {token : Text} (h : token ≠ []) (t : Text) : literal token t ≠ some [] := by
  simp only [literal, ne_eq, Option.ite_none_right_eq_some, Option.some.injEq, not_and]
  exact fun _ => h

theorem keyword_ne_nil {token : Text} (h : token ≠ []) (t : Text) : keyword token t ≠ some [] := by
  simp only [keyword, ne_eq, Option.ite_none_right_eq_some, Option.some.injEq, not_and]
  exact fun _ => h

theorem firstOf_ne_nil {takes : List (Text → Option Text)}
    (h : ∀ take ∈ takes, ∀ t, take t ≠ some []) (t : Text) : firstOf takes t ≠ some [] := by
  induction takes with
  | nil => simp [firstOf]
  | cons take others ih =>
    intro hs
    rw [firstOf, Option.or_eq_some_iff] at hs
    rcases hs with hs | ⟨-, hs⟩
    · exact h take (by simp) t hs
    · exact ih (fun take' h' => h take' (by simp [h'])) hs

theorem whitespace_ne_nil (t : Text) : whitespace t ≠ some [] := by
  cases t with
  | nil => simp [whitespace]
  | cons first rest =>
    intro h
    simp only [whitespace, blanks, Option.ite_none_right_eq_some, Option.some.injEq] at h
    obtain ⟨hfirst, h⟩ := h
    rw [List.takeWhile_cons_of_pos hfirst] at h
    simp at h

theorem termRun_ne_nil {first : Char} (h : isTermChar first) (rest : Text) :
    termRun (first :: rest) ≠ [] := by
  rw [termRun, Text.escapedRun.eq_def]
  split
  · contradiction
  · simp
  · simp_all

theorem term_ne_nil (t : Text) : term t ≠ some [] := by
  cases t with
  | nil => simp [term]
  | cons first rest =>
    intro h
    simp only [term, Option.ite_none_right_eq_some, Option.some.injEq] at h
    obtain ⟨hfirst, h⟩ := h
    simp only [isTermStart, Bool.and_eq_true] at hfirst
    exact termRun_ne_nil hfirst.1 rest h

theorem phrase_ne_nil (t : Text) : phrase t ≠ some [] := by
  intro h
  simp only [phrase, andThen, Option.bind_eq_some_iff, Option.map_eq_some_iff] at h
  obtain ⟨s, hs, s', -, happ⟩ := h
  rw [List.append_eq_nil_iff] at happ
  exact literal_ne_nil (by simp) t (happ.1 ▸ hs)

theorem word_ne_nil (t : Text) : word t ≠ some [] := by
  apply firstOf_ne_nil
  simp only [List.forall_mem_cons]
  exact ⟨phrase_ne_nil, term_ne_nil, by simp⟩

theorem operator_ne_nil (t : Text) : operator t ≠ some [] := by
  apply firstOf_ne_nil
  simp only [List.forall_mem_cons]
  exact ⟨keyword_ne_nil (by simp), keyword_ne_nil (by simp), keyword_ne_nil (by simp), by simp⟩

end Lexeme

/-! ## Productions -/

namespace Grammar

open Reader Token

theorem literal_advances {token : Text} (h : token ≠ []) : Advances (literal token) :=
  (literal_takes token).advances (Lexeme.literal_ne_nil h)

theorem keyword_advances {token : Text} (h : token ≠ []) : Advances (keyword token) :=
  (keyword_takes token).advances (Lexeme.keyword_ne_nil h)

theorem word_advances : Advances word := word_takes.advances Lexeme.word_ne_nil

theorem term_advances : Advances term := term_takes.advances Lexeme.term_ne_nil

theorem spacedOperator_advances : Advances spacedOperator := by
  refine Advances.node _ (spaces_takes.forward.bind_advances fun _ => ?_)
  refine (boolOperator_takes.advances Lexeme.operator_ne_nil).bind fun _ => ?_
  exact spaces_takes.forward.bind fun _ => forward_pure _

theorem orSpace_advances : Advances orSpace := orSpace_takes.advances Lexeme.whitespace_ne_nil

theorem rangeCondition_forward : Forward rangeCondition := by
  refine Forward.node _ (rangeOpening_takes.forward.bind fun _ => ?_)
  refine spaces_takes.forward.bind fun _ => word_takes.forward.bind fun _ => ?_
  refine rangeJoiner_takes.forward.bind fun _ => word_takes.forward.bind fun _ => ?_
  exact spaces_takes.forward.bind fun _ => rangeClosing_takes.forward.bind fun _ => forward_pure _

theorem simpleRangeCondition_forward : Forward simpleRangeCondition :=
  Forward.node _ (comparison_takes.forward.bind fun _ =>
    word_takes.forward.bind fun _ => forward_pure _)

theorem regexCondition_forward : Forward regexCondition := by
  refine Forward.node _ ((literal_takes _).forward.bind fun _ => ?_)
  exact (body_takes _).forward.bind fun _ => (literal_takes _).forward.bind fun _ => forward_pure _

theorem detachedCondition_advances : Advances detachedCondition :=
  Advances.node _ (word_advances.bind fun _ => forward_pure _)

section

variable {condition : Reader Tree} (h : Forward condition)

include h

theorem continuation_advances : Advances (continuation condition) := by
  apply advances_firstOf
  simp only [List.forall_mem_cons]
  refine ⟨?_, ?_, by simp⟩
  · exact spacedOperator_advances.bind fun _ => h.bind fun _ => forward_pure _
  · exact orSpace_advances.bind fun _ => h.bind fun _ => forward_pure _

theorem list_forward : Forward (list condition) := by
  refine Forward.node _ (h.bind fun _ => forward_here.bind fun _ => ?_)
  exact (continuation_advances h).forward.many.bind fun _ => forward_pure _

theorem parented_advances : Advances (parented condition) := by
  refine Advances.node _ ((literal_advances (by simp)).bind fun _ => ?_)
  refine spaces_takes.forward.bind fun _ => (list_forward h).bind fun _ => ?_
  exact spaces_takes.forward.bind fun _ => (literal_takes _).forward.bind fun _ => forward_pure _

theorem longNegation_advances : Advances (longNegation condition) := by
  refine Advances.node _ ((keyword_advances (by simp)).bind fun _ => ?_)
  exact whitespace_takes.forward.bind fun _ => h.bind fun _ => forward_pure _

theorem simpleNegation_advances : Advances (simpleNegation condition) :=
  Advances.node _ ((literal_advances (by simp)).bind fun _ => h.bind fun _ => forward_pure _)

theorem simpleMust_advances : Advances (simpleMust condition) :=
  Advances.node _ ((literal_advances (by simp)).bind fun _ => h.bind fun _ => forward_pure _)

theorem value_forward : Forward (value condition) := by
  apply forward_firstOf
  simp only [List.forall_mem_cons]
  exact ⟨rangeCondition_forward, simpleRangeCondition_forward, regexCondition_forward,
    (parented_advances h).forward, word_takes.forward, by simp⟩

theorem fieldCondition_advances : Advances (fieldCondition condition) := by
  refine Advances.node _ (term_advances.bind fun _ => ?_)
  exact (literal_takes _).forward.bind fun _ => (value_forward h).bind fun _ => forward_pure _

theorem conditionWith_advances : Advances (conditionWith condition) := by
  apply advances_firstOf
  simp only [List.forall_mem_cons]
  exact ⟨parented_advances h, longNegation_advances h, simpleNegation_advances h,
    simpleMust_advances h, fieldCondition_advances h, detachedCondition_advances, by simp⟩

end

/-! ## Conditions inside conditions -/

section

variable {n : Nat} {condition condition' : Reader Tree} (h : Agree n condition condition')
  (hf : Forward condition)

include h hf

theorem continuation_agree : Agree n (continuation condition) (continuation condition') := by
  refine agree_firstOf_cons ?_ (agree_firstOf_cons ?_ (agree_refl _ _))
  · exact (agree_refl n _).bind spacedOperator_advances.forward fun _ =>
      h.bind hf fun _ => agree_refl n _
  · exact (agree_refl n _).bind orSpace_advances.forward fun _ =>
      h.bind hf fun _ => agree_refl n _

theorem list_agree : Agree n (list condition) (list condition') := by
  refine Agree.node _ (h.bind hf fun _ => (agree_refl n _).bind forward_here fun _ => ?_)
  exact (continuation_agree h hf).many.bind (continuation_advances hf).forward.many fun _ =>
    agree_refl n _

theorem parented_agree : Agree (n + 1) (parented condition) (parented condition') := by
  refine Agree.node _ ((literal_advances (by simp)).agree_bind fun _ => ?_)
  refine (agree_refl n _).bind spaces_takes.forward fun _ => ?_
  exact (list_agree h hf).bind (list_forward hf) fun _ => agree_refl n _

theorem value_agree : Agree n (value condition) (value condition') := by
  refine agree_firstOf_cons (agree_refl n _) (agree_firstOf_cons (agree_refl n _) ?_)
  refine agree_firstOf_cons (agree_refl n _) (agree_firstOf_cons ?_ (agree_refl n _))
  exact fun c hc => parented_agree h hf c (Nat.lt_succ_of_lt hc)

theorem conditionWith_agree :
    Agree (n + 1) (conditionWith condition) (conditionWith condition') := by
  refine agree_firstOf_cons (parented_agree h hf) (agree_firstOf_cons ?_ (agree_firstOf_cons ?_
    (agree_firstOf_cons ?_ (agree_firstOf_cons ?_ (agree_refl _ _)))))
  · refine Agree.node _ ((keyword_advances (by simp)).agree_bind fun _ => ?_)
    exact (agree_refl n _).bind whitespace_takes.forward fun _ => h.bind hf fun _ => agree_refl n _
  · exact Agree.node _ ((literal_advances (by simp)).agree_bind fun _ =>
      h.bind hf fun _ => agree_refl n _)
  · exact Agree.node _ ((literal_advances (by simp)).agree_bind fun _ =>
      h.bind hf fun _ => agree_refl n _)
  · refine Agree.node _ (term_advances.agree_bind fun _ => ?_)
    refine (agree_refl n _).bind (literal_takes _).forward fun _ => ?_
    exact (value_agree h hf).bind (value_forward hf) fun _ => agree_refl n _

end

/-- The reader that `condition` gives to itself: conditions with less than `n` characters left. -/
def conditionBelow (n : Nat) : Reader Tree := fun c =>
  if c.rest.length < n then condition c else fail c

theorem condition_eq_below (c : Cursor) :
    condition c = conditionWith (conditionBelow c.rest.length) c := by
  rw [condition]
  rfl

theorem condition_advances : Advances condition := by
  intro c t c' ht
  induction hn : c.rest.length using Nat.strongRecOn generalizing c t c' with
  | _ n ih =>
    -- The conditions inside are covered by the induction, so the rule is one of the productions.
    have hbelow : Forward (conditionBelow c.rest.length) := by
      intro c₁ t₁ c₁' h₁
      unfold conditionBelow at h₁
      split at h₁
      · rename_i hlt
        exact (ih _ (hn ▸ hlt) c₁ t₁ c₁' h₁ rfl).1
      · simp at h₁
    rw [condition_eq_below] at ht
    rw [← hn]
    exact conditionWith_advances hbelow c t c' ht

theorem result_endOfInput (c : Cursor) :
    (endOfInput c).result = if c.rest = [] then some ((), c) else none := by
  rw [endOfInput]
  cases hc : c.rest <;> rfl

theorem endOfInput_forward : Forward endOfInput := by
  intro c a c' h
  rw [result_endOfInput, Option.ite_none_right_eq_some, Option.some.injEq, Prod.mk.injEq] at h
  rw [← h.2.2]
  exact c.reaches_refl

theorem query_forward : Forward query := by
  refine Forward.node _ (spaces_takes.forward.bind fun _ => ?_)
  refine (list_forward condition_advances.forward).bind fun _ => ?_
  refine spaces_takes.forward.bind fun _ => endOfInput_forward.bind fun _ => forward_pure _

theorem condition_eq (c : Cursor) : condition c = conditionWith condition c := by
  rw [condition_eq_below]
  have hagree : Agree c.rest.length condition (conditionBelow c.rest.length) := by
    intro c' hlt
    rw [conditionBelow, if_pos hlt]
  exact (conditionWith_agree hagree condition_advances.forward c (Nat.lt_succ_self _)).symm

end Grammar

end SearchQuery
