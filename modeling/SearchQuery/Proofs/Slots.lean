import Mathlib.Data.List.Forall2
import SearchQuery.Proofs.RoundTrip

/-! # Tokens and the blanks between them -/

namespace SearchQuery

/-- A piece of a text, with what may become of it. -/
inductive Slot where
  | token (t : Text)
  /-- The blanks between two tokens. -/
  | separator (t : Text)
  /-- The blanks between a delimiter and what stands inside. -/
  | padding (t : Text)
deriving DecidableEq, Repr

namespace Slot

def text : Slot → Text
  | token t | separator t | padding t => t

/-- What can stand in this place. Tokens that touch go on touching. -/
def Accepts : Slot → Text → Prop
  | token t, s => s = t
  | separator t, s => Blank s ∧ (s = [] ↔ t = [])
  | padding _, s => Blank s

instance (t : Text) : Decidable (Blank t) := decidable_of_iff (t.all isSpace) List.all_eq_true

instance (slot : Slot) (s : Text) : Decidable (slot.Accepts s) :=
  match slot with
  | token t => inferInstanceAs (Decidable (s = t))
  | separator t => inferInstanceAs (Decidable (Blank s ∧ (s = [] ↔ t = [])))
  | padding _ => inferInstanceAs (Decidable (Blank s))

/-- The word that joins the ends of a range, with its blanks. -/
def ofJoiner (t : Text) : List Slot :=
  let word := t.dropWhile isSpace
  [separator (t.takeWhile isSpace), token (word.takeWhile (!isSpace ·)),
    separator (word.dropWhile (!isSpace ·))]

end Slot

/-- The text has the tokens in their order, and some blanks in place of the blanks. -/
def Respaced : List Slot → Text → Prop
  | [], t => t = []
  | slot :: later, t => ∃ s u, slot.Accepts s ∧ Respaced later u ∧ t = s ++ u

theorem respaced_append {slots slots' : List Slot} {t : Text} :
    Respaced (slots ++ slots') t ↔ ∃ s u, Respaced slots s ∧ Respaced slots' u ∧ t = s ++ u := by
  induction slots generalizing t with
  | nil => simp [Respaced]
  | cons slot slots ih =>
    simp only [List.cons_append, Respaced, ih]
    constructor
    · rintro ⟨s, _, hs, ⟨u, v, hu, hv, rfl⟩, rfl⟩
      exact ⟨s ++ u, v, ⟨s, u, hs, hu, rfl⟩, hv, by simp⟩
    · rintro ⟨_, v, ⟨s, u, hs, hu, rfl⟩, hv, rfl⟩
      exact ⟨s, u ++ v, hs, ⟨u, v, hu, hv, rfl⟩, by simp⟩

theorem respaced_singleton {slot : Slot} {t : Text} : Respaced [slot] t ↔ slot.Accepts t := by
  simp [Respaced]

theorem respaced_flatten {slots : List Slot} {texts : List Text}
    (h : List.Forall₂ Slot.Accepts slots texts) : Respaced slots texts.flatten := by
  induction h with
  | nil => rfl
  | cons hslot _ ih => exact ⟨_, _, hslot, ih, rfl⟩

namespace Tree

mutual

/-- The tokens and the blanks of a tree, in the order of the text. A list keeps what stands between its
conditions apart from them. -/
def slots : Tree → List Slot
  | ⟨.spaces, _, source, _⟩ | ⟨.orSpace, _, source, _⟩ => [.separator source]
  | ⟨.terminal, _, source, _⟩ | ⟨.boolOperator, _, source, _⟩ => [.token source]
  | ⟨.list, _, _, [first, ⟨_, _, _, separators⟩, ⟨_, _, _, conditions⟩]⟩ =>
    first.slots ++ ((slotsEach separators).zipWith (· ++ ·) (slotsEach conditions)).flatten
  | ⟨.parented, _, _, [opening, before, inner, after, closing]⟩ =>
    opening.slots ++ .padding before.source :: (inner.slots ++
      .padding after.source :: closing.slots)
  | ⟨.rangeCondition, _, _, [opening, before, lower, joiner, upper, after, closing]⟩ =>
    opening.slots ++ .padding before.source :: (lower.slots ++ (Slot.ofJoiner joiner.source ++
      (upper.slots ++ .padding after.source :: closing.slots)))
  | ⟨_, _, _, children⟩ => (slotsEach children).flatten

def slotsEach : List Tree → List (List Slot)
  | [] => []
  | part :: later => part.slots :: slotsEach later

end

theorem slotsEach_eq_map (trees : List Tree) : slotsEach trees = trees.map slots := by
  induction trees with
  | nil => rfl
  | cons tree trees ih => rw [slotsEach, ih, List.map_cons]

/-- The conditions and what stands between them come back in the order of the text. -/
theorem slots_list (offset : Nat) (source : Text) (first : Tree) (c : Cursor)
    (pairs : List (Tree × Tree)) : slots ⟨.list, offset, source, [first,
      Grammar.iteration c (pairs.map Prod.fst), Grammar.iteration c (pairs.map Prod.snd)]⟩ =
      first.slots ++ (alternate pairs).flatMap slots := by
  simp only [Grammar.iteration, slots, slotsEach_eq_map]
  congr 1
  induction pairs with
  | nil => rfl
  | cons pair pairs ih =>
    simp only [List.map_cons, List.zipWith_cons_cons, List.flatten_cons, ih, List.append_assoc]
    rfl

end Tree

theorem ofJoiner_eq {b b' : Text} (hb : Blank b) (hb' : Blank b') (hne : b' ≠ []) :
    Slot.ofJoiner (b ++ ("TO" ++ b')) = [.separator b, .token "TO", .separator b'] := by
  have hT : isSpace 'T' = false := by decide
  have hO : isSpace 'O' = false := by decide
  have htrimmed : Trimmed ("TO" ++ b') := by
    intro x hx
    obtain rfl : 'T' = x := by simpa using hx
    exact hT
  obtain ⟨x, later, rfl⟩ := List.exists_cons_of_ne_nil hne
  have hx : isSpace x = true := hb' x List.mem_cons_self
  unfold Slot.ofJoiner
  rw [takeWhile_append hb htrimmed, dropWhile_append hb htrimmed]
  simp [hT, hO, hx]

/-! ## Texts with other blanks -/

/-- With other blanks the query is spelled again. -/
structure Respells (q : Query) (slots : List Slot) : Prop where
  condition {s s' : Text} : Spells [q] s → Respaced slots s' → Spells [q] s'
  value {s s' : Text} : SpellsValue q s → Respaced slots s' → SpellsValue q s'

def RespellsItems (items : List Query) (slots : List Slot) : Prop :=
  ∀ s s', Spells items s → Respaced slots s' → Spells items s'

theorem respells_word (raw : Text) : Respells (.term raw) [.token raw] where
  condition h h' := by
    obtain rfl := h.eq_of_term
    obtain rfl := respaced_singleton.mp h'
    exact h
  value h h' := by
    cases h with
    | word hraw hfree =>
      obtain rfl := respaced_singleton.mp h'
      exact .word hraw hfree

theorem respells_comparison (operand : Comparison) (raw : Text) :
    Respells (.comparison operand (.term raw)) [.token operand.text, .token raw] where
  condition h := by cases h
  value h h' := by
    cases h with
    | comparison hraw hoperand =>
      obtain ⟨_, _, rfl, hraw', rfl⟩ := h'
      obtain rfl := respaced_singleton.mp hraw'
      exact .comparison hraw hoperand

theorem respells_regex (expression : Text) :
    Respells (.regex expression) [.token "/", .token expression, .token "/"] where
  condition h := by cases h
  value h h' := by
    cases h with
    | regex hbody =>
      obtain ⟨_, _, rfl, ⟨_, _, rfl, hclosing, rfl⟩, rfl⟩ := h'
      obtain rfl := respaced_singleton.mp hclosing
      exact .regex hbody

theorem respells_range (left right : Edge) (lower upper b₁ b₄ : Text) {b₂ b₃ : Text}
    (hne₂ : b₂ ≠ []) (hne₃ : b₃ ≠ []) : Respells (.range left lower upper right)
      [.token left.opening, .padding b₁, .token lower, .separator b₂, .token "TO", .separator b₃,
        .token upper, .padding b₄, .token right.closing] where
  condition h := by cases h
  value h h' := by
    cases h with
    | range hlower hclosed hupper hclosed' =>
      obtain ⟨_, _, rfl, ⟨b₁, _, h₁, ⟨_, _, rfl, ⟨b₂', _, ⟨h₂, hnil₂⟩, ⟨_, _, rfl, ⟨b₃', _,
        ⟨h₃, hnil₃⟩, ⟨_, _, rfl, ⟨b₄, _, h₄, hclosing, rfl⟩, rfl⟩, rfl⟩, rfl⟩, rfl⟩, rfl⟩, rfl⟩,
        rfl⟩ := h'
      obtain rfl := respaced_singleton.mp hclosing
      exact .range hlower hclosed hupper hclosed' h₁ h₂ (mt hnil₂.mp hne₂) h₃ (mt hnil₃.mp hne₃) h₄

theorem Respells.negated {value : Query} {slots : List Slot} {b : Text} (h : Respells value slots)
    (hne : b ≠ []) :
    Respells (.marked .not value) (.token Mark.not.text :: .separator b :: slots) where
  condition hs hs' := by
    cases hs with
    | negated hvalue =>
      obtain ⟨_, _, rfl, ⟨b', u, ⟨hb', hnil⟩, hu, rfl⟩, rfl⟩ := hs'
      exact .negated (h.condition hvalue hu) hb' (mt hnil.mp hne)
    | signed hmark => exact absurd rfl hmark
  value hs := by cases hs

theorem Respells.signed {mark : Mark} {value : Query} {slots : List Slot} (h : Respells value slots)
    (hmark : mark ≠ .not) : Respells (.marked mark value) (.token mark.text :: slots) where
  condition hs hs' := by
    cases hs with
    | negated => exact absurd rfl hmark
    | signed _ hvalue =>
      obtain ⟨_, u, rfl, hu, rfl⟩ := hs'
      exact .signed hmark (h.condition hvalue hu)
  value hs := by cases hs

theorem Respells.field {name : Text} {value : Query} {slots : List Slot}
    (h : Respells value slots) : Respells (.field name value) (.token name :: .token ":" :: slots) where
  condition hs hs' := by
    obtain ⟨_, _, rfl, ⟨_, u, rfl, hu, rfl⟩, rfl⟩ := hs'
    cases hs with
    | field hname hclosed hfree hvalue => exact .field hname hclosed hfree (h.value hvalue hu)
    | fieldParenthesized hname hclosed hfree hvalue =>
      exact .fieldParenthesized hname hclosed hfree (h.condition hvalue hu)
  value hs := by cases hs

/-! ## Lists with other blanks -/

/-- With other blanks, whatever items the query is made of are spelled again. -/
def RespellsAll (q : Query) (slots : List Slot) : Prop :=
  ∀ items, Query.ofItems? items = some q → RespellsItems items slots

theorem Spells.eq_of_ofItems? {items items' : List Query} {q : Query} {s : Text}
    (h : Spells items s) (hq : Query.ofItems? items = some q) (hq' : Query.ofItems? items' = some q)
    (hne : ∀ list, items' ≠ [.sequence list]) : items = items' := by
  match items, items', hq, hq' with
  | [item], [_], rfl, rfl => rfl
  | [_], _ :: _ :: _, rfl, hq' =>
    -- A sequence is no item of a list.
    obtain rfl := Option.some.inj hq'
    exact nomatch h
  | _ :: _ :: _, [_], rfl, rfl => exact absurd rfl (hne _)
  | _ :: _ :: _, _ :: _ :: _, rfl, hq' =>
    exact (Query.sequence.inj (Option.some.inj hq')).symm

theorem RespellsAll.parenthesized {inner : Query} {slots : List Slot} (h : RespellsAll inner slots)
    (b₁ b₂ : Text) : Respells (.parenthesized inner)
      (.token "(" :: .padding b₁ :: (slots ++ [.padding b₂, .token ")"])) where
  condition hs hs' := by
    cases hs with
    | parenthesized hitems hclosed hinner =>
      obtain ⟨_, _, rfl, ⟨b₁, _, h₁, hrest, rfl⟩, rfl⟩ := hs'
      obtain ⟨s', _, hs', ⟨b₂, _, h₂, hclosing, rfl⟩, rfl⟩ := respaced_append.mp hrest
      obtain rfl := respaced_singleton.mp hclosing
      exact .parenthesized (h _ hinner _ _ hitems hs') hclosed hinner h₁ h₂
  value hs := by cases hs

theorem RespellsItems.either {first next : Query} {later : List Query} {slots slots' : List Slot}
    {b : Text} (hfirst : Respells first slots) (hlater : RespellsItems (next :: later) slots')
    (hne : b ≠ []) : RespellsItems (first :: .operator .either :: next :: later)
      (slots ++ .separator b :: slots') := by
  intro s s' hs hs'
  obtain ⟨u, _, hu, ⟨b', v, ⟨hb', hnil⟩, hv, rfl⟩, rfl⟩ := respaced_append.mp hs'
  cases hs with
  | either hs hclosed hnot _ _ hmark hkeyword hnext =>
    exact .either (hfirst.condition hs hu) hclosed hnot hb' (mt hnil.mp hne) hmark hkeyword
      (hlater _ _ hnext hv)
  | operator hop => exact absurd rfl hop

theorem head?_append_congr {s : Text} (h : s ≠ []) (t u : Text) :
    (s ++ t).head? = (s ++ u).head? := by
  rw [List.head?_append_of_ne_nil s h, List.head?_append_of_ne_nil s h]

theorem Spells.head?_eq {items : List Query} {s : Text} (h : Spells items s) :
    ∀ first ∈ items.head?, s.head? = first.tokens.head? := by
  induction h with
  | word => simp [Query.tokens]
  | parenthesized => simp [Query.tokens]
  | negated => simp [Query.tokens, Mark.text]
  | @signed mark _ _ _ hvalue =>
    simp only [List.head?_cons, Option.mem_some_iff, forall_eq', Query.tokens]
    exact head?_append_congr (by cases mark <;> simp [Mark.text]) _ _
  | field hname | fieldParenthesized hname =>
    simp only [List.head?_cons, Option.mem_some_iff, forall_eq', Query.tokens]
    exact head?_append_congr hname.ne_nil _ _
  | either hfirst _ _ _ _ _ _ _ ih | operator _ hfirst _ _ _ _ _ _ _ ih =>
    rw [List.head?_append_of_ne_nil _ hfirst.starts.ne_nil]
    simpa using ih

theorem Spells.atWordEnd_tokens {first : Query} {later : List Query} {s : Text}
    (h : Spells (first :: later) s) : atWordEnd first.tokens ↔ atWordEnd s := by
  rw [atWordEnd_iff, atWordEnd_iff, h.head?_eq first rfl]

theorem RespellsItems.operator {op : Operator} {first next : Query} {later : List Query}
    {slots slots' : List Slot} {b₁ b₂ : Text} (hfirst : Respells first slots)
    (hlater : RespellsItems (next :: later) slots') (hglued : b₁ = [] → first.lastWord? = none)
    (hglued' : b₂ = [] → atWordEnd next.tokens) (hop : op ≠ .either) :
    RespellsItems (first :: .operator op :: next :: later)
      (slots ++ .separator b₁ :: .token op.text :: .separator b₂ :: slots') := by
  intro s s' hs hs'
  obtain ⟨u, _, hu, ⟨b₁', _, ⟨h₁, hnil₁⟩, ⟨_, _, rfl, ⟨b₂', v, ⟨h₂, hnil₂⟩, hv, rfl⟩, rfl⟩, rfl⟩,
    rfl⟩ := respaced_append.mp hs'
  cases hs with
  | either => exact absurd rfl hop
  | operator _ hs hclosed hnot _ _ _ _ hnext =>
    -- An operator that touches its neighbours touches them again, and ends where it did.
    have hnext' := hlater _ _ hnext hv
    exact .operator hop (hfirst.condition hs hu) hclosed hnot h₁ (fun h => hglued (hnil₁.mp h)) h₂
      (fun h => hnext'.atWordEnd_tokens.mp (hglued' (hnil₂.mp h))) hnext'

end SearchQuery
