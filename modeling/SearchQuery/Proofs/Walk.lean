import SearchQuery.Parse

/-! # The meaning of nodes -/

namespace SearchQuery

namespace Tree

/-! ## Nodes with a fixed number of children -/

section

variable {offset : Nat} {source : Text} {a b c d e f g : Tree} {q : Query}

theorem toQuery_query (h : b.toQuery = .ok q) :
    toQuery ⟨.query, offset, source, [a, b, c]⟩ = .ok q := by
  simpa [toQuery, walk, walkChild] using h

theorem toQuery_spaced (h : b.toQuery = .ok q) :
    toQuery ⟨.spaced, offset, source, [a, b, c]⟩ = .ok q := by
  simpa [toQuery, walk, walkChild] using h

theorem toQuery_boolOperator {op : Operator} (h : Operator.ofText? source = some op) :
    toQuery ⟨.boolOperator, offset, source, []⟩ = .ok (.operator op) := by
  simp [toQuery, walk, h]

theorem toQuery_orSpace :
    toQuery ⟨.orSpace, offset, source, []⟩ = .ok (.operator .either) := by
  simp [toQuery, walk]

theorem toQuery_parented (h : c.toQuery = .ok q) :
    toQuery ⟨.parented, offset, source, [a, b, c, d, e]⟩ = .ok (.parenthesized q) := by
  rw [toQuery] at h
  simp [toQuery, walk, walkChild, h]

theorem toQuery_longNegation (h : c.toQuery = .ok q) :
    toQuery ⟨.longNegation, offset, source, [a, b, c]⟩ = .ok (.marked .not q) := by
  rw [toQuery] at h
  simp [toQuery, walk, walkChild, h]

theorem toQuery_simpleNegation (h : b.toQuery = .ok q) :
    toQuery ⟨.simpleNegation, offset, source, [a, b]⟩ = .ok (.marked .minus q) := by
  rw [toQuery] at h
  simp [toQuery, walk, walkChild, h]

theorem toQuery_simpleMust (h : b.toQuery = .ok q) :
    toQuery ⟨.simpleMust, offset, source, [a, b]⟩ = .ok (.marked .plus q) := by
  rw [toQuery] at h
  simp [toQuery, walk, walkChild, h]

theorem toQuery_fieldCondition (h : c.toQuery = .ok q) :
    toQuery ⟨.fieldCondition, offset, source, [a, b, c]⟩ = .ok (.field a.source q) := by
  rw [toQuery] at h
  simp [toQuery, walk, walkChild, h]

theorem toQuery_rangeCondition {opening closing : Edge}
    (hopening : Edge.ofOpening? a.source = some opening)
    (hclosing : Edge.ofClosing? g.source = some closing) :
    toQuery ⟨.rangeCondition, offset, source, [a, b, c, d, e, f, g]⟩ =
      .ok (.range opening c.source e.source closing) := by
  simp [toQuery, walk, hopening, hclosing]

theorem toQuery_simpleRangeCondition {operand : Comparison}
    (hoperand : Comparison.ofText? a.source = some operand) (h : b.toQuery = .ok q) :
    toQuery ⟨.simpleRangeCondition, offset, source, [a, b]⟩ = .ok (.comparison operand q) := by
  rw [toQuery] at h
  simp [toQuery, walk, walkChild, h, hoperand]

theorem toQuery_regexCondition :
    toQuery ⟨.regexCondition, offset, source, [a, b, c]⟩ = .ok (.regex b.source) := by
  simp [toQuery, walk]

end

end Tree

/-! ## The order of a list -/

section

variable {α : Type}

theorem insertByOffset_perm (item : Nat × α) (items : List (Nat × α)) :
    (insertByOffset item items).Perm (item :: items) := by
  induction items with
  | nil => exact List.Perm.refl _
  | cons other later ih =>
    rw [insertByOffset]
    split
    · exact List.Perm.refl _
    · exact (ih.cons other).trans (List.Perm.swap item other later)

theorem sortByOffset_perm (items : List (Nat × α)) : (sortByOffset items).Perm items := by
  induction items with
  | nil => exact List.Perm.refl _
  | cons item later ih =>
    exact (insertByOffset_perm item _).trans (ih.cons item)

theorem insertByOffset_sorted {item : Nat × α} {items : List (Nat × α)}
    (h : items.Pairwise (·.1 ≤ ·.1)) : (insertByOffset item items).Pairwise (·.1 ≤ ·.1) := by
  induction items with
  | nil => simp [insertByOffset]
  | cons other later ih =>
    obtain ⟨hother, hlater⟩ := List.pairwise_cons.mp h
    rw [insertByOffset]
    split
    · rename_i hle
      refine List.pairwise_cons.mpr ⟨?_, h⟩
      intro x hx
      rcases List.mem_cons.mp hx with rfl | hx
      · exact hle
      · exact Nat.le_trans hle (hother x hx)
    · rename_i hlt
      refine List.pairwise_cons.mpr ⟨?_, ih hlater⟩
      intro x hx
      rcases List.mem_cons.mp ((insertByOffset_perm item later).mem_iff.mp hx) with rfl | hx
      · omega
      · exact hother x hx

theorem sortByOffset_sorted (items : List (Nat × α)) :
    (sortByOffset items).Pairwise (·.1 ≤ ·.1) := by
  induction items with
  | nil => exact List.Pairwise.nil
  | cons item later ih => exact insertByOffset_sorted ih

theorem sortByOffset_eq_of_perm {items sorted : List (Nat × α)} (h : items.Perm sorted)
    (hsorted : sorted.Pairwise (·.1 < ·.1)) : sortByOffset items = sorted := by
  refine List.Perm.eq_of_pairwise ?_ (sortByOffset_sorted items)
    (hsorted.imp Nat.le_of_lt) ((sortByOffset_perm items).trans h)
  intro x y hx hy hxy hyx
  have hx' : x ∈ sorted := h.mem_iff.mp ((sortByOffset_perm items).mem_iff.mp hx)
  -- Two of the sorted items with one offset are the same item, whichever of them comes first.
  have hafter : sorted.Pairwise (fun u v => u.1 = v.1 → u = v) :=
    hsorted.imp fun hlt heq => absurd heq (Nat.ne_of_lt hlt)
  have hbefore : sorted.Pairwise (flip fun u v => u.1 = v.1 → u = v) :=
    hsorted.imp fun hlt heq => absurd heq (Nat.ne_of_gt hlt)
  exact List.Pairwise.forall_of_forall_of_flip (fun _ _ _ => rfl) hafter hbefore hx' hy
    (Nat.le_antisymm hxy hyx)

end

/-! ## Lists -/

namespace Tree

/-- A separator, the condition after it, and so on. -/
def alternate (pairs : List (Tree × Tree)) : List Tree := pairs.flatMap fun p => [p.1, p.2]

theorem alternate_perm (pairs : List (Tree × Tree)) :
    (pairs.map Prod.fst ++ pairs.map Prod.snd).Perm (alternate pairs) := by
  induction pairs with
  | nil => exact List.Perm.refl _
  | cons p later ih =>
    refine List.Perm.cons p.1 ?_
    exact List.perm_middle.trans (ih.cons p.2)

theorem walkEach_eq_map (parts : List Tree) :
    walkEach parts = parts.map fun t => (t.offset, t.walk) := by
  induction parts with
  | nil => rfl
  | cons part later ih => rw [walkEach, ih, List.map_cons]

theorem contributions_cons {part : Tree} (h : part.rule ≠ .iteration) (later : List Tree) :
    contributions (part :: later) = (part.offset, part.walk) :: contributions later := by
  obtain ⟨rule, offset, source, children⟩ := part
  cases rule <;> first | exact absurd rfl h | rfl

theorem result_all {ws : List (Walk Query)} {qs : List Query}
    (h : ws.map Walk.result = qs.map .ok) : (Walk.all ws).result = .ok qs := by
  induction ws generalizing qs with
  | nil =>
    cases qs with
    | nil => rfl
    | cons q qs => simp at h
  | cons w ws ih =>
    cases qs with
    | nil => simp at h
    | cons q qs =>
      simp only [List.map_cons, List.cons.injEq] at h
      simp [Walk.all, h.1, ih h.2]

/-- A list stands for its conditions and the separators between them, in the order of the text. -/
theorem toQuery_list {first : Tree} {pairs : List (Tree × Tree)} {items : List Query} {q : Query}
    (hrule : first.rule ≠ .iteration)
    (hsorted : (first :: alternate pairs).Pairwise (·.offset < ·.offset))
    (hitems : (first :: alternate pairs).map toQuery = items.map .ok)
    (hq : Query.ofItems? items = some q) (c : Cursor) (offset : Nat) (source : Text) :
    toQuery ⟨.list, offset, source, [first, Grammar.iteration c (pairs.map Prod.fst),
      Grammar.iteration c (pairs.map Prod.snd)]⟩ = .ok q := by
  have hparts : sortByOffset (contributions [first, Grammar.iteration c (pairs.map Prod.fst),
      Grammar.iteration c (pairs.map Prod.snd)]) =
      (first :: alternate pairs).map fun t => (t.offset, t.walk) := by
    apply sortByOffset_eq_of_perm
    · simp only [contributions_cons hrule, Grammar.iteration, contributions, walkEach_eq_map,
        List.append_nil, ← List.map_append, List.map_cons]
      exact ((alternate_perm pairs).map _).cons _
    · exact List.pairwise_map.mpr hsorted
  have hall : (Walk.all ((first :: alternate pairs).map Tree.walk)).result = .ok items := by
    apply result_all
    rw [← hitems, List.map_map]
    rfl
  simp only [toQuery, walk, hparts, List.map_map, Walk.result_bind, Walk.result_visit,
    Except.ok_bind]
  rw [show Prod.snd ∘ (fun t : Tree => (t.offset, t.walk)) = Tree.walk from rfl, hall,
    Except.ok_bind, hq, Walk.result_ofOption_some]

end Tree

end SearchQuery
