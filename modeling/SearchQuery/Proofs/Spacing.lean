import Mathlib.Data.List.TakeWhile
import SearchQuery.Proofs.Recognition
import SearchQuery.Proofs.Slots

/-! # Blanks between tokens do not matter -/

namespace SearchQuery

/-! ## What trees keep of the text -/

/-- The tree has the tokens and the blanks of the text that was read, and they are as they should be for
the query. -/
structure Kept (Good : Query → List Slot → Prop) (c : Cursor) (found : Tree × Cursor)
    (read : Query × Text) : Prop where
  rest : found.2.rest = read.2
  text : c.rest = found.1.slots.flatMap Slot.text ++ found.2.rest
  good : Good read.1 found.1.slots

def Reader.Keeps (read : Reader Tree) (Good : Query → List Slot → Prop)
    (scan : Text → Option (Query × Text)) : Prop :=
  ∀ c, Option.Rel (Kept Good c) (read c).result (scan c.rest)

theorem Reader.Takes.rel_bind_split {γ δ : Type} {S : γ → δ → Prop} {read : Reader Tree}
    {rule : Rule} {take : Text → Option Text} (h : read.Takes rule take) (c : Cursor)
    {f : Tree × Cursor → Option γ} {g : Text × Text → Option δ}
    (hnext : ∀ s, Lexeme.split take c.rest = some (s, (c.past s).rest) →
      Option.Rel S (f (⟨rule, c.offset, s, []⟩, c.past s)) (g (s, (c.past s).rest))) :
    Option.Rel S ((read c).result.bind f) ((Lexeme.split take c.rest).bind g) := by
  refine h.rel_bind c fun s hs => hnext s ?_
  exact (Lexeme.split_eq_some_iff h.front).mpr ⟨hs, (Cursor.passes_past (h.front hs)).1⟩

theorem rel_found {α β : Type} {R : α → β → Prop} {x : Option α} {y : Option β}
    (h : Option.Rel R x y) : Option.Rel (fun a b => R a b ∧ y = some b) x y := by
  cases h with
  | none => exact .none
  | some hab => exact .some ⟨hab, rfl⟩

theorem rel_bind_spaces {γ δ : Type} {S : γ → δ → Prop} (c : Cursor) {f : Tree × Cursor → Option γ}
    {y : Option δ} (hnext : ∀ b, Lexeme.split Lexeme.blanks c.rest = some (b, (c.past b).rest) →
      c.rest.dropWhile isSpace = (c.past b).rest →
      Option.Rel S (f (⟨.spaces, c.offset, b, []⟩, c.past b)) y) :
    Option.Rel S ((Token.spaces c).result.bind f) y :=
  hnext _ rfl (past_blanks c).symm

namespace Grammar

open Reader Token Lexeme

/-! ## Values of fields -/

theorem word_keeps : word.Keeps Respells Scan.detachedCondition := by
  intro c
  rw [← Option.bind_fun_some (word c).result]
  refine word_takes.rel_bind_split c fun raw hraw => ?_
  obtain ⟨-, hrest, -⟩ := split_word_iff.mp hraw
  refine .some ⟨rfl, ?_, ?_⟩
  · simpa [Tree.slots, Slot.text] using hrest
  · simpa [Tree.slots] using respells_word raw

theorem detachedCondition_keeps : detachedCondition.Keeps Respells Scan.detachedCondition := by
  intro c
  simp only [detachedCondition, result_node, result_bind, result_pure, Option.map_bind,
    Function.comp_def, Option.map_some]
  refine word_takes.rel_bind_split c fun raw hraw => ?_
  obtain ⟨-, hrest, -⟩ := split_word_iff.mp hraw
  refine .some ⟨rfl, ?_, ?_⟩
  · simpa [Tree.slots, Tree.slotsEach, Slot.text] using hrest
  · simpa [Tree.slots, Tree.slotsEach] using respells_word raw

theorem simpleRangeCondition_keeps :
    simpleRangeCondition.Keeps Respells Scan.simpleRangeCondition := by
  intro c
  simp only [simpleRangeCondition, result_node, result_bind, result_pure, Option.map_bind,
    Function.comp_def, Option.map_some]
  refine comparison_takes.rel_bind_split _ fun _ hoperand => ?_
  obtain ⟨operand, rfl, hrest, -⟩ := split_comparison_iff.mp hoperand
  refine word_takes.rel_bind_split _ fun raw hraw => ?_
  obtain ⟨-, hrest', -⟩ := split_word_iff.mp hraw
  simp only [Comparison.ofText?_text]
  refine .some ⟨rfl, ?_, ?_⟩
  · rw [hrest, hrest']
    simp [Tree.slots, Tree.slotsEach, Slot.text]
  · simpa [Tree.slots, Tree.slotsEach] using respells_comparison operand raw

theorem regexCondition_keeps : regexCondition.Keeps Respells Scan.regexCondition := by
  intro c
  simp only [regexCondition, result_node, result_bind, result_pure, Option.map_bind,
    Function.comp_def, Option.map_some]
  refine (literal_takes _).rel_bind_split _ fun _ hopening => ?_
  obtain ⟨rfl, hrest⟩ := split_literal_iff.mp hopening
  refine (body_takes _).rel_bind_split _ fun expression hbody => ?_
  obtain ⟨-, hrest'⟩ := (split_eq_some_iff (body_takes _).front).mp hbody
  refine (literal_takes _).rel_bind_split _ fun _ hclosing => ?_
  obtain ⟨rfl, hrest''⟩ := split_literal_iff.mp hclosing
  refine .some ⟨rfl, ?_, ?_⟩
  · rw [hrest, hrest', hrest'']
    simp [Tree.slots, Tree.slotsEach, Slot.text]
  · simpa [Tree.slots, Tree.slotsEach] using respells_regex expression

theorem rangeCondition_keeps : rangeCondition.Keeps Respells Scan.rangeCondition := by
  intro c
  simp only [rangeCondition, result_node, result_bind, result_pure, Option.map_bind,
    Function.comp_def, Option.map_some]
  refine rangeOpening_takes.rel_bind_split _ fun _ hopening => ?_
  obtain ⟨left, rfl, hrest⟩ := split_rangeOpening_iff.mp hopening
  refine rel_bind_spaces _ fun b₁ hblank hdrop => ?_
  obtain ⟨-, hrest₁, -⟩ := split_blanks_iff.mp hblank
  simp only [hdrop]
  refine word_takes.rel_bind_split _ fun lower hlower => ?_
  obtain ⟨-, hrest₂, -⟩ := split_word_iff.mp hlower
  refine rangeJoiner_takes.rel_bind_split _ fun _ hjoiner => ?_
  obtain ⟨b₂, b₃, h₂, hne₂, h₃, hne₃, rfl, hrest₃, -⟩ := split_rangeJoiner_iff.mp hjoiner
  refine word_takes.rel_bind_split _ fun upper hupper => ?_
  obtain ⟨-, hrest₄, -⟩ := split_word_iff.mp hupper
  refine rel_bind_spaces _ fun b₄ hblank hdrop => ?_
  obtain ⟨-, hrest₅, -⟩ := split_blanks_iff.mp hblank
  simp only [hdrop]
  refine rangeClosing_takes.rel_bind_split _ fun _ hclosing => ?_
  obtain ⟨right, rfl, hrest₆⟩ := split_rangeClosing_iff.mp hclosing
  simp only [Edge.ofOpening?_opening, Edge.ofClosing?_closing]
  refine .some ⟨rfl, ?_, ?_⟩
  · rw [hrest, hrest₁, hrest₂, hrest₃, hrest₄, hrest₅, hrest₆]
    simp only [Tree.slots, ofJoiner_eq h₂ h₃ hne₃]
    simp [Slot.text]
  · simp only [Tree.slots, ofJoiner_eq h₂ h₃ hne₃]
    exact respells_range left right lower upper b₁ b₄ hne₂ hne₃

/-! ## Conditions inside conditions -/

section

variable {condition : Reader Tree} {scan : Text → Option (Query × Text)}

theorem longNegation_keeps (h : condition.Keeps Respells scan) :
    (longNegation condition).Keeps Respells (Scan.longNegation scan) := by
  intro c
  simp only [longNegation, result_node, result_bind, result_pure, Option.map_bind,
    Function.comp_def, Option.map_some]
  refine (keyword_takes _).rel_bind_split _ fun _ hmark => ?_
  obtain ⟨rfl, hrest, -⟩ := split_keyword_iff.mp hmark
  refine whitespace_takes.rel_bind_split _ fun b hblank => ?_
  obtain ⟨-, hne, hrest', -⟩ := split_whitespace_iff.mp hblank
  refine rel_bind (h _) ?_
  rintro ⟨value, c₁⟩ ⟨q, _⟩ - ⟨rfl, htext, hrespells⟩
  refine .some ⟨rfl, ?_, ?_⟩
  · rw [hrest, hrest', htext]
    simp [Tree.slots, Tree.slotsEach, Slot.text]
  · simp only [Tree.slots, Tree.slotsEach, List.flatten_cons, List.flatten_nil, List.append_nil,
      List.cons_append, List.nil_append]
    exact hrespells.negated hne

theorem signed_keeps (h : condition.Keeps Respells scan) {mark : Mark} (hmark : mark ≠ .not)
    {rule : Rule} (hrule : rule = .simpleNegation ∨ rule = .simpleMust) :
    (node rule do
      let sign ← literal mark.text
      let value ← condition
      return [sign, value]).Keeps Respells (Scan.signed scan mark) := by
  intro c
  simp only [result_node, result_bind, result_pure, Option.map_bind, Function.comp_def,
    Option.map_some]
  refine (literal_takes _).rel_bind_split _ fun _ hsign => ?_
  obtain ⟨rfl, hrest⟩ := split_literal_iff.mp hsign
  refine rel_bind (h _) ?_
  rintro ⟨value, c₁⟩ ⟨q, _⟩ - ⟨rfl, htext, hrespells⟩
  have hslots {offset : Nat} {source : Text} {sign : Tree} :
      Tree.slots ⟨rule, offset, source, [sign, value]⟩ = sign.slots ++ value.slots := by
    rcases hrule with rfl | rfl <;> simp [Tree.slots, Tree.slotsEach]
  refine .some ⟨rfl, ?_, ?_⟩
  · rw [hrest, htext, hslots]
    simp [Tree.slots, Slot.text]
  · rw [hslots]
    exact hrespells.signed hmark

theorem simpleNegation_keeps (h : condition.Keeps Respells scan) :
    (simpleNegation condition).Keeps Respells (Scan.signed scan .minus) :=
  signed_keeps h (show Mark.minus ≠ .not by decide) (.inl rfl)

theorem simpleMust_keeps (h : condition.Keeps Respells scan) :
    (simpleMust condition).Keeps Respells (Scan.signed scan .plus) :=
  signed_keeps h (show Mark.plus ≠ .not by decide) (.inr rfl)

end

/-! ## Separators -/

/-- The tree of a separator has blanks, or an operator and the blanks around it. -/
structure Separates (c : Cursor) (found : Tree × Cursor) (read : Query × Text) : Prop where
  rest : found.2.rest = read.2
  text : c.rest = found.1.slots.flatMap Slot.text ++ found.2.rest
  slots : (∃ b, b ≠ [] ∧ read.1 = .operator .either ∧ found.1.slots = [.separator b]) ∨
    ∃ op b₁ b₂, op ≠ .either ∧ (b₂ = [] → atWordEnd found.2.rest) ∧ read.1 = .operator op ∧
      found.1.slots = [.separator b₁, .token op.text, .separator b₂]

theorem orSpace_separates (c : Cursor) :
    Option.Rel (Separates c) (orSpace c).result (Scan.orSpace c.rest) := by
  rw [← Option.bind_fun_some (orSpace c).result]
  refine orSpace_takes.rel_bind_split c fun b hblank => ?_
  obtain ⟨-, hne, hrest, -⟩ := split_whitespace_iff.mp hblank
  refine .some ⟨rfl, ?_, .inl ⟨b, hne, rfl, by simp [Tree.slots]⟩⟩
  simpa [Tree.slots, Slot.text] using hrest

theorem spacedOperator_separates (c : Cursor) :
    Option.Rel (Separates c) (spacedOperator c).result (Scan.spacedOperator c.rest) := by
  simp only [spacedOperator, result_node, result_bind, result_pure, Option.map_bind,
    Function.comp_def, Option.map_some]
  refine rel_bind_spaces _ fun b₁ hblank hdrop => ?_
  obtain ⟨-, hrest, -⟩ := split_blanks_iff.mp hblank
  rw [Scan.spacedOperator, hdrop]
  refine boolOperator_takes.rel_bind_split _ fun _ hoperator => ?_
  obtain ⟨op, hop, rfl, hrest', hend⟩ := split_operator_iff.mp hoperator
  refine rel_bind_spaces _ fun b₂ hblank hdrop => ?_
  obtain ⟨-, hrest'', -⟩ := split_blanks_iff.mp hblank
  simp only [Operator.ofText?_text hop, hdrop]
  refine .some ⟨rfl, ?_, .inr ⟨op, b₁, b₂, hop, ?_, rfl, by simp [Tree.slots, Tree.slotsEach]⟩⟩
  · rw [hrest, hrest', hrest'']
    simp [Tree.slots, Tree.slotsEach, Slot.text]
  · rintro rfl
    rw [hrest''] at hend
    exact hend

theorem Separates.join {c : Cursor} {found : Tree × Cursor} {read : Query × Text}
    (h : Separates c found read) {first next : Query} {later : List Query} {s s' rest : Text}
    {slots slots' : List Slot} (hreading : Scan.Reading first s c.rest)
    (hnext : Spells [next] s') (hs' : found.2.rest = s' ++ rest) (hfirst : Respells first slots)
    (hlater : RespellsItems (next :: later) slots') :
    RespellsItems (first :: read.1 :: next :: later) (slots ++ (found.1.slots ++ slots')) := by
  rcases h.slots with ⟨b, hne, hread, hslots⟩ | ⟨op, b₁, b₂, hop, hend, hread, hslots⟩
  · rw [hread, hslots]
    exact RespellsItems.either hfirst hlater hne
  · have hrest : c.rest = b₁ ++ (op.text ++ (b₂ ++ found.2.rest)) := by
      rw [h.text, hslots]
      simp [Slot.text]
    rw [hrest] at hreading
    rw [hread, hslots]
    refine RespellsItems.operator hfirst hlater (hreading.glued hop) (fun hnil => ?_) hop
    have hend' := hend hnil
    rw [hs', hnext.starts.atWordEnd_append] at hend'
    exact hnext.atWordEnd_tokens.mpr hend'

/-- A separator and the condition after it. They can be put after what was read before them. -/
structure KeptPair (c : Cursor) (found : (Tree × Tree) × Cursor)
    (read : (Query × Query) × Text) : Prop where
  rest : found.2.rest = read.2
  shorter : found.2.rest.length < c.rest.length
  text : c.rest = (found.1.1.slots ++ found.1.2.slots).flatMap Slot.text ++ found.2.rest
  reading : ∃ s, Scan.Reading read.1.2 s found.2.rest
  next : Respells read.1.2 found.1.2.slots
  join {first : Query} {s : Text} {slots slots' : List Slot} {later : List Query} :
    Scan.Reading first s c.rest → Respells first slots → RespellsItems (read.1.2 :: later) slots' →
    RespellsItems (first :: read.1.1 :: read.1.2 :: later) (slots ++ (found.1.1.slots ++ slots'))

section

variable {condition : Reader Tree} {scan : Text → Option (Query × Text)}
  (hadvances : Advances condition) (h : condition.Keeps Respells scan)
  (hsound : ∀ t q rest, scan t = some (q, rest) → ∃ s, t = s ++ rest ∧ Scan.Reading q s rest)

include hadvances h hsound

theorem separated_keeps {separator : Reader Tree}
    {scanSeparator : Text → Option (Query × Text)}
    (hseparator : ∀ c, Option.Rel (Separates c) (separator c).result (scanSeparator c.rest))
    (hforward : Forward separator) (c : Cursor) :
    Option.Rel (KeptPair c)
      ((do
        let op ← separator
        let next ← condition
        return (op, next) : Reader (Tree × Tree)) c).result
      (Scan.separated scan scanSeparator c.rest) := by
  simp only [result_bind, result_pure]
  refine rel_bind (hseparator c) ?_
  rintro ⟨op, c₁⟩ ⟨qop, _⟩ hop hseparates
  obtain rfl := hseparates.rest
  refine rel_bind (rel_found (h c₁)) ?_
  rintro ⟨next, c₂⟩ ⟨q, _⟩ hnext ⟨⟨rfl, htext, hrespells⟩, hscan⟩
  obtain ⟨s', hs', hreading'⟩ : ∃ s', c₁.rest = s' ++ c₂.rest ∧ Scan.Reading q s' c₂.rest :=
    hsound _ _ _ hscan
  have hlt := (hadvances c₁ next c₂ hnext).2
  have hle := (hforward c op c₁ hop).length_le
  refine .some ⟨rfl, Nat.lt_of_lt_of_le hlt hle, ?_, ⟨s', hreading'⟩, hrespells, ?_⟩
  · rw [hseparates.text, htext, List.flatMap_append, List.append_assoc]
  · intro first s slots slots' later hreading hfirst hlater
    exact hseparates.join hreading hreading'.spells hs' hfirst hlater

theorem continuation_keeps (c : Cursor) : Option.Rel (KeptPair c)
    (continuation condition c).result (Scan.continuation scan c.rest) := by
  simp only [continuation, result_firstOf_cons, result_firstOf_nil, Option.or_none,
    Scan.continuation]
  exact rel_or
    (separated_keeps hadvances h hsound spacedOperator_separates
      spacedOperator_advances.forward c)
    (separated_keeps hadvances h hsound orSpace_separates orSpace_advances.forward c)

/-- What comes after the first condition of a list can be put after it again with other blanks. -/
theorem many_keeps {first : Query} {s : Text} {c : Cursor}
    (hreading : Scan.Reading first s c.rest) : ∃ pairs c',
      (many (continuation condition) c).result = some (pairs, c') ∧
      c'.rest = (Scan.tail scan c.rest).2 ∧
      c.rest = ((Tree.alternate pairs).flatMap Tree.slots).flatMap Slot.text ++ c'.rest ∧
      ∀ slots, Respells first slots → RespellsItems (first :: (Scan.tail scan c.rest).1)
        (slots ++ (Tree.alternate pairs).flatMap Tree.slots) := by
  -- The induction is on the text that is left, and the condition that was read last takes the place of
  -- the first one.
  induction hn : c.rest.length using Nat.strongRecOn generalizing first s c with
  | _ n ih =>
    have hstep := continuation_keeps hadvances h hsound c
    rw [result_many, Scan.tail]
    generalize (continuation condition c).result = result at hstep
    generalize Scan.continuation scan c.rest = read at hstep
    cases hstep with
    | none =>
      refine ⟨[], c, rfl, rfl, rfl, fun slots hfirst s s' hs hs' => ?_⟩
      simp only [Tree.alternate, List.flatMap_nil, List.append_nil] at hs'
      exact hfirst.condition hs hs'
    | @some found read hpair =>
      have hlt := hpair.shorter
      obtain ⟨s', hreading'⟩ := hpair.reading
      obtain ⟨pairs, c', hmany, hrest, htext, hrespells⟩ := ih _ (hn ▸ hlt) hreading' rfl
      have halternate : Tree.alternate (found.1 :: pairs) =
          found.1.1 :: found.1.2 :: Tree.alternate pairs := rfl
      simp only [← hpair.rest, if_pos hlt]
      refine ⟨found.1 :: pairs, c', by simp [hmany], hrest, ?_, fun slots hfirst => ?_⟩
      · rw [hpair.text, htext, halternate]
        simp
      · rw [halternate, List.flatMap_cons, List.flatMap_cons]
        exact hpair.join hreading hfirst (hrespells _ hpair.next)

theorem list_keeps : (list condition).Keeps RespellsAll (Scan.list scan) := by
  intro c
  simp only [list, result_node, result_bind, result_here, result_many_bind, result_pure,
    Option.bind_some, Option.map_bind, Function.comp_def, Option.map_some]
  simp only [Scan.list, Scan.items, Option.bind_eq_bind, Option.pure_def, Option.bind_assoc,
    Option.bind_some]
  refine rel_bind (rel_found (h c)) ?_
  rintro ⟨first, c₁⟩ ⟨q, _⟩ - ⟨⟨rfl, htext, hfirst⟩, hscan⟩
  obtain ⟨s, hs, hreading⟩ : ∃ s, c.rest = s ++ c₁.rest ∧ Scan.Reading q s c₁.rest :=
    hsound _ _ _ hscan
  obtain ⟨pairs, c₂, hmany, hrest, htext', hrespells⟩ := many_keeps hadvances h hsound hreading
  obtain ⟨r, hr⟩ : ∃ r, Query.ofItems? (q :: (Scan.tail scan c₁.rest).1) = some r := by
    cases (Scan.tail scan c₁.rest).1 <;> exact ⟨_, rfl⟩
  simp only [hmany, hr, Option.bind_some]
  refine .some ⟨hrest, ?_, ?_⟩
  · rw [Tree.slots_list, htext, htext']
    simp
  · rw [Tree.slots_list]
    intro items hitems s s' hs hs'
    have hne : ∀ list, q :: (Scan.tail scan c₁.rest).1 ≠ [.sequence list] := by
      intro list heq
      obtain ⟨rfl, -⟩ := List.cons.inj heq
      cases hreading.spells
    obtain rfl := hs.eq_of_ofItems? hitems hr hne
    exact hrespells _ hfirst _ _ hs hs'

theorem parented_keeps : (parented condition).Keeps Respells (Scan.parented scan) := by
  intro c
  simp only [parented, result_node, result_bind, result_pure, Option.map_bind, Function.comp_def,
    Option.map_some]
  refine (literal_takes _).rel_bind_split _ fun _ hopening => ?_
  obtain ⟨rfl, hrest⟩ := split_literal_iff.mp hopening
  refine rel_bind_spaces _ fun b₁ hblank hdrop => ?_
  obtain ⟨-, hrest₁, -⟩ := split_blanks_iff.mp hblank
  simp only [hdrop]
  refine rel_bind (list_keeps hadvances h hsound _) ?_
  rintro ⟨inner, c₁⟩ ⟨q, _⟩ - ⟨rfl, htext, hrespells⟩
  refine rel_bind_spaces _ fun b₂ hblank hdrop => ?_
  obtain ⟨-, hrest₂, -⟩ := split_blanks_iff.mp hblank
  simp only [hdrop]
  refine (literal_takes _).rel_bind_split _ fun _ hclosing => ?_
  obtain ⟨rfl, hrest₃⟩ := split_literal_iff.mp hclosing
  refine .some ⟨rfl, ?_, ?_⟩
  · rw [hrest, hrest₁, htext, hrest₂, hrest₃]
    simp [Tree.slots, Slot.text]
  · simp only [Tree.slots]
    exact hrespells.parenthesized b₁ b₂

theorem value_keeps : (value condition).Keeps Respells (Scan.value scan) := by
  intro c
  simp only [value, result_firstOf_cons, result_firstOf_nil, Option.or_none, Scan.value]
  exact rel_or (rangeCondition_keeps c) (rel_or (simpleRangeCondition_keeps c)
    (rel_or (regexCondition_keeps c)
    (rel_or (parented_keeps hadvances h hsound c) (word_keeps c))))

theorem fieldCondition_keeps :
    (fieldCondition condition).Keeps Respells (Scan.fieldCondition scan) := by
  intro c
  simp only [fieldCondition, result_node, result_bind, result_pure, Option.map_bind,
    Function.comp_def, Option.map_some]
  refine term_takes.rel_bind_split _ fun name hname => ?_
  obtain ⟨-, hrest, -⟩ := split_term_iff.mp hname
  refine (literal_takes _).rel_bind_split _ fun _ hcolon => ?_
  obtain ⟨rfl, hrest'⟩ := split_literal_iff.mp hcolon
  refine rel_bind (value_keeps hadvances h hsound _) ?_
  rintro ⟨value, c₁⟩ ⟨q, _⟩ - ⟨rfl, htext, hrespells⟩
  refine .some ⟨rfl, ?_, ?_⟩
  · rw [hrest, hrest', htext]
    simp [Tree.slots, Tree.slotsEach, Slot.text]
  · simp only [Tree.slots, Tree.slotsEach, List.flatten_cons, List.flatten_nil, List.append_nil,
      List.cons_append, List.nil_append]
    exact hrespells.field

theorem conditionWith_keeps :
    (conditionWith condition).Keeps Respells (Scan.conditionWith scan) := by
  intro c
  simp only [conditionWith, result_firstOf_cons, result_firstOf_nil, Option.or_none,
    Scan.conditionWith]
  exact rel_or (parented_keeps hadvances h hsound c) (rel_or (longNegation_keeps h c)
    (rel_or (simpleNegation_keeps h c) (rel_or (simpleMust_keeps h c)
    (rel_or (fieldCondition_keeps hadvances h hsound c) (detachedCondition_keeps c)))))

end

theorem condition_keeps : Reader.Keeps condition Respells Scan.condition :=
  condition_rel fun hadvances hscan h => conditionWith_keeps hadvances h fun t q rest hread =>
    Scan.condition_sound t q rest (hscan t (q, rest) hread)

theorem list_found {c c' : Cursor} {tree : Tree}
    (h : (list condition c).result = some (tree, c')) : ∃ q,
      Scan.list Scan.condition c.rest = some (q, c'.rest) ∧
      Kept RespellsAll c (tree, c') (q, c'.rest) := by
  have hrel := list_keeps condition_advances condition_keeps Scan.condition_sound c
  rw [h] at hrel
  generalize Scan.list Scan.condition c.rest = found at hrel
  cases hrel with
  | @some _ read hread =>
    obtain ⟨q, rest⟩ := read
    obtain rfl : c'.rest = rest := hread.rest
    exact ⟨q, rfl, hread⟩

theorem slots_of_query {c c' : Cursor} {tree : Tree} (h : (query c).result = some (tree, c')) :
    ∃ b inner c₁ c₂, (list condition c₁).result = some (inner, c₂) ∧ Blank b ∧ Blank c₂.rest ∧
      c.rest = b ++ c₁.rest ∧
      tree.slots = .separator b :: (inner.slots ++ [.separator c₂.rest]) := by
  simp only [query, result_node, result_bind, result_pure, result_spaces, result_endOfInput,
    Option.map_eq_some_iff, Option.bind_eq_some_iff, Option.bind_some,
    Option.ite_none_right_eq_some, Option.some.injEq, Prod.mk.injEq] at h
  obtain ⟨_, ⟨⟨inner, c₂⟩, hlist, _, ⟨hend, rfl⟩, rfl⟩, rfl, rfl⟩ := h
  rw [past_blanks, dropWhile_eq_nil_iff] at hend
  have hsplit : split blanks c.rest =
      some (c.rest.takeWhile isSpace, (c.past (c.rest.takeWhile isSpace)).rest) := rfl
  obtain ⟨hblank, hrest, -⟩ := split_blanks_iff.mp hsplit
  have htrailing : c₂.rest.takeWhile isSpace = c₂.rest := List.takeWhile_eq_self_iff.mpr hend
  refine ⟨_, inner, _, c₂, hlist, hblank, hend, hrest, ?_⟩
  simp [Tree.slots, Tree.slotsEach, htrailing]

end Grammar

/-- Blanks between tokens do not matter. The tree of a text has all of the text, and with other blanks
where it has blanks, the text parses as the same query. -/
theorem parse_respaced {t : Text} {tree : Tree} (h : parseTree t = .ok tree) :
    tree.slots.flatMap Slot.text = t ∧
    ∃ q, parse t = .ok q ∧ ∀ t', Respaced tree.slots t' → parse t' = .ok q := by
  rw [parseTree_eq_ok_iff] at h
  obtain ⟨b, inner, c₁, c₂, hlist, hb, hb', hrest, hslots⟩ := Grammar.slots_of_query h
  obtain ⟨q, hscan, -, htext, hrespells⟩ := Grammar.list_found hlist
  obtain ⟨items, hitems, hq⟩ := Scan.list_iff.mp hscan
  obtain ⟨s, hs, hspells, hlast⟩ := Scan.items_sound (fun t _ => Scan.condition_sound t)
    (Nat.lt_succ_self _) hitems
  have ht : t = b ++ c₁.rest := hrest
  -- No blanks come after a last word with a backslash that would take one of them along.
  have hclosed : Closed items ∨ c₂.rest = [] := by
    by_cases hnil : c₂.rest = []
    · exact .inr hnil
    · exact .inl fun last hl word hw => (hlast last hl word hw).closed hnil
  refine ⟨?_, q, parse_eq_ok_iff.mpr ⟨items, b, s, c₂.rest, hq, hspells, hb, hb', hclosed, ?_⟩, ?_⟩
  · rw [hslots, ht, htext]
    simp [Slot.text]
  · rw [ht, hs]
  · intro t' ht'
    rw [hslots] at ht'
    obtain ⟨b₁, _, ⟨h₁, -⟩, hmore, rfl⟩ := ht'
    obtain ⟨s', b₂, hs', htrailing, rfl⟩ := respaced_append.mp hmore
    obtain ⟨h₂, hnil⟩ := respaced_singleton.mp htrailing
    exact parse_eq_ok_iff.mpr ⟨items, b₁, s', b₂, hq, hrespells items hq s s' hspells hs', h₁, h₂,
      hclosed.imp_right hnil.mpr, rfl⟩

theorem parse_respaced_keywords : ∃ tree, parseTree "(a )OR NOT b  AND" = .ok tree ∧
    Respaced tree.slots "( a)OR\tNOT\n\nb AND" ∧
    tree.slots.flatMap Slot.text = "(a )OR NOT b  AND" ∧
    ∃ q, parse "(a )OR NOT b  AND" = .ok q ∧ parse "( a)OR\tNOT\n\nb AND" = .ok q := by
  have hslots : (parseTree "(a )OR NOT b  AND").map Tree.slots = .ok [.separator "", .token "(",
      .padding "", .token "a", .padding " ", .token ")", .separator "", .token "OR", .separator " ",
      .token "NOT", .separator " ", .token "b", .separator "  ", .token "AND", .separator ""] := by
    decide +kernel
  cases h : parseTree "(a )OR NOT b  AND" with
  | error m =>
    rw [h] at hslots
    cases hslots
  | ok tree =>
    rw [h] at hslots
    have haccepts : List.Forall₂ Slot.Accepts tree.slots ["", "(", " ", "a", "", ")", "", "OR",
        "\t", "NOT", "\n\n", "b", " ", "AND", ""] := by
      rw [Except.ok.inj hslots]
      decide
    have hrespaced : Respaced tree.slots "( a)OR\tNOT\n\nb AND" := respaced_flatten haccepts
    obtain ⟨htext, q, hq, hall⟩ := parse_respaced h
    exact ⟨tree, rfl, hrespaced, htext, q, hq, hall _ hrespaced⟩

end SearchQuery
