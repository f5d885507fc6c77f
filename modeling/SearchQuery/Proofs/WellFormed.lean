import SearchQuery.Proofs.Unambiguous

/-! # Well-formed queries -/

namespace SearchQuery

/-! ## Places -/

/-- Where a part stands in the query that holds it. -/
inductive Place where
  | root
  | parentheses
  | mark
  | field
  | comparison
  | item (index : Nat)
deriving DecidableEq, Repr

namespace Query

/-- The query has this part at some place of this kind. -/
inductive Has (q : Query) : Place → Query → Prop
  | root : Has q .root q
  | parentheses {place : Place} {inner : Query} (h : Has q place (.parenthesized inner)) :
      Has q .parentheses inner
  | mark {place : Place} {mark : Mark} {value : Query} (h : Has q place (.marked mark value)) :
      Has q .mark value
  | field {place : Place} {name : Text} {value : Query} (h : Has q place (.field name value)) :
      Has q .field value
  | comparison {place : Place} {operand : Comparison} {value : Query}
      (h : Has q place (.comparison operand value)) : Has q .comparison value
  | item {place : Place} {items : List Query} {index : Nat} {part : Query}
      (h : Has q place (.sequence items)) (hpart : items[index]? = some part) :
      Has q (.item index) part

def isCondition : Query → Bool
  | parenthesized _ | marked _ _ | field _ _ | term _ => true
  | _ => false

/-- The query can be nothing but the value of a field. -/
def isPlainValue : Query → Bool
  | range _ _ _ _ | comparison _ _ | regex _ => true
  | _ => false

def isValue : Query → Bool
  | parenthesized _ | term _ => true
  | q => q.isPlainValue

/-- The rules that the parts of a query follow. -/
structure WellFormed (q : Query) : Prop where
  sequence_place {place : Place} {items : List Query} : q.Has place (.sequence items) →
    place = .root ∨ place = .parentheses
  sequence_length {place : Place} {items : List Query} : q.Has place (.sequence items) →
    items.length % 2 = 1 ∧ 3 ≤ items.length
  /-- Conditions stand at even places of a sequence and operators at odd ones. -/
  sequence_item {place : Place} {items : List Query} {index : Nat} {part : Query} :
    q.Has place (.sequence items) → items[index]? = some part →
    (index % 2 = 0 → part.isCondition) ∧ (index % 2 = 1 → ∃ op, part = .operator op)
  /-- Operators stand nowhere else. -/
  operator_place {place : Place} {op : Operator} : q.Has place (.operator op) →
    ∃ index, place = .item index ∧ index % 2 = 1
  field_value {place : Place} {name : Text} {value : Query} :
    q.Has place (.field name value) → value.isValue
  plainValue_place {place : Place} {value : Query} : q.Has place value → value.isPlainValue →
    place = .field
  comparison_value {place : Place} {operand : Comparison} {value : Query} :
    q.Has place (.comparison operand value) → ∃ raw, value = .term raw
  term_ne_nil {place : Place} {raw : Text} : q.Has place (.term raw) → raw ≠ []
  name_ne_nil {place : Place} {name : Text} {value : Query} :
    q.Has place (.field name value) → name ≠ []
  bounds_ne_nil {place : Place} {opening closing : Edge} {lower upper : Text} :
    q.Has place (.range opening lower upper closing) → lower ≠ [] ∧ upper ≠ []
  /-- The word `NOT` after blanks alone is an operator, not a mark. -/
  not_after_either {place : Place} {items : List Query} {index : Nat} {value : Query} :
    q.Has place (.sequence items) → items[index]? = some (.operator .either) →
    items[index + 1]? ≠ some (.marked .not value)
  /-- A word that could be an operator is a term after blanks alone only at the end. -/
  keyword_after_either {place : Place} {items : List Query} {index : Nat} {raw : Text} :
    q.Has place (.sequence items) → items[index]? = some (.operator .either) →
    items[index + 1]? = some (.term raw) → raw ∈ (["AND", "OR", "NOT"] : List Text) →
    index + 2 = items.length

example : ¬ (Query.operator .and).WellFormed := by
  intro h
  obtain ⟨_, hplace, -⟩ := h.operator_place .root
  simp at hplace

end Query

/-! ## Items of spellings -/

/-- Induction over the items of a spelling, one operator and one condition at a time. -/
theorem Spells.items_induction {motive : List Query → Prop}
    (single : ∀ {q : Query} {s : Text}, Spells [q] s → motive [q])
    (join : ∀ {op : Operator} {first next : Query} {later : List Query} {s u : Text},
      Spells [first] s → Spells (next :: later) u →
      (op = .either → (∀ value, next ≠ .marked .not value) ∧ (next.isKeyword → later = [])) →
      motive (next :: later) → motive (first :: .operator op :: next :: later))
    {items : List Query} {s : Text} (h : Spells items s) : motive items := by
  induction h with
  | word hraw hfree => exact single (.word hraw hfree)
  | parenthesized hitems hclosed hinner h₁ h₂ =>
    exact single (.parenthesized hitems hclosed hinner h₁ h₂)
  | negated hvalue hb hne => exact single (.negated hvalue hb hne)
  | signed hmark hvalue => exact single (.signed hmark hvalue)
  | field hname hclosed hfree hvalue => exact single (.field hname hclosed hfree hvalue)
  | fieldParenthesized hname hclosed hfree hvalue =>
    exact single (.fieldParenthesized hname hclosed hfree hvalue)
  | either hfirst _ _ _ _ hmark hkeyword hlater _ ih =>
    exact join hfirst hlater (fun _ => ⟨hmark, hkeyword⟩) ih
  | operator hop hfirst _ _ _ _ _ _ hlater _ ih =>
    exact join hfirst hlater (fun h => absurd h hop) ih

theorem Spells.length {items : List Query} {s : Text} (h : Spells items s) :
    items.length % 2 = 1 := by
  refine h.items_induction (motive := fun items => items.length % 2 = 1) (fun _ => rfl)
    fun _ _ _ ih => ?_
  simp only [List.length_cons] at ih ⊢
  omega

/-- The items at even places are spelled on their own, and those at odd places are operators. -/
def Alternate (items : List Query) : Prop := ∀ index part, items[index]? = some part →
  (index % 2 = 0 ∧ ∃ u, Spells [part] u) ∨ (index % 2 = 1 ∧ ∃ op, part = .operator op)

theorem Spells.alternate {items : List Query} {s : Text} (h : Spells items s) : Alternate items := by
  refine h.items_induction ?_ ?_
  · intro q s hq index part hpart
    cases index with
    | zero =>
      obtain rfl : q = part := by simpa using hpart
      exact .inl ⟨rfl, s, hq⟩
    | succ index => simp at hpart
  · intro op first next later s _ hfirst _ _ ih index part hpart
    match index with
    | 0 =>
      obtain rfl : first = part := by simpa using hpart
      exact .inl ⟨rfl, s, hfirst⟩
    | 1 =>
      obtain rfl : Query.operator op = part := by simpa using hpart
      exact .inr ⟨rfl, op, rfl⟩
    | index + 2 => simpa using ih index part (by simpa using hpart)

/-- After blanks alone there is no `NOT` for a mark, and a word that could be an operator is the last
item. -/
def EitherGuarded (items : List Query) : Prop := ∀ index part,
  items[index]? = some (.operator .either) → items[index + 1]? = some part →
  (∀ value, part ≠ .marked .not value) ∧ (part.isKeyword → index + 2 = items.length)

theorem Spells.eitherGuarded {items : List Query} {s : Text} (h : Spells items s) :
    EitherGuarded items := by
  refine h.items_induction ?_ ?_
  · intro q s _ index part _ hpart
    simp at hpart
  · intro op first next later s _ hfirst _ hop ih index part heither hpart
    match index with
    | 0 =>
      obtain rfl : first = .operator .either := by simpa using heither
      exact nomatch hfirst
    | 1 =>
      obtain rfl : op = .either := by simpa using heither
      obtain rfl : next = part := by simpa using hpart
      obtain ⟨hmark, hkeyword⟩ := hop rfl
      refine ⟨hmark, fun hpart => ?_⟩
      rw [hkeyword hpart]
      rfl
    | index + 2 =>
      obtain ⟨hmark, hlast⟩ := ih index part (by simpa using heither) (by simpa using hpart)
      refine ⟨hmark, fun hkeyword => ?_⟩
      have := hlast hkeyword
      simp only [List.length_cons] at this ⊢
      omega

/-! ## From the root down -/

/-- Whether a condition can stand at the place, other than as the value of a field. -/
def Place.holdsCondition : Place → Bool
  | root | parentheses | mark => true
  | item index => index % 2 = 0
  | _ => false

/-- What stands at a place is spelled as it should be there. -/
inductive Fits : Place → Query → Prop
  | condition {place : Place} {q : Query} {s : Text} (hplace : place.holdsCondition)
      (h : Spells [q] s) : Fits place q
  | value {q : Query} {s : Text} (h : SpellsValue q s) : Fits .field q
  | parenthesizedValue {inner : Query} {s : Text} (h : Spells [.parenthesized inner] s) :
      Fits .field (.parenthesized inner)
  | compared {raw : Text} (h : IsWord raw) : Fits .comparison (.term raw)
  | sequence {place : Place} {items : List Query} {s : Text}
      (hplace : place = .root ∨ place = .parentheses) (h : Spells items s)
      (hlength : 2 ≤ items.length) : Fits place (.sequence items)
  | operator {index : Nat} {op : Operator} (hodd : index % 2 = 1) :
      Fits (.item index) (.operator op)

theorem fits_ofItems? {place : Place} {items : List Query} {q : Query} {s : Text}
    (hplace : place = .root ∨ place = .parentheses) (h : Spells items s)
    (hq : Query.ofItems? items = some q) : Fits place q := by
  match items, hq with
  | [item], rfl =>
    refine .condition ?_ h
    rcases hplace with rfl | rfl <;> rfl
  | _ :: _ :: _, rfl => exact .sequence hplace h (by simp)

theorem fits_of_parse {t : Text} {q : Query} (h : parse t = .ok q) : Fits .root q := by
  obtain ⟨items, _, s, _, hq, hspells, -⟩ := parse_eq_ok_iff.mp h
  exact fits_ofItems? (.inl rfl) hspells hq

theorem fits_inner {inner : Query} {s : Text} (h : Spells [.parenthesized inner] s) :
    Fits .parentheses inner := by
  cases h with
  | parenthesized hitems _ hinner => exact fits_ofItems? (.inr rfl) hitems hinner

theorem fits_of_has {q : Query} (hroot : Fits .root q) {place : Place} {part : Query}
    (h : q.Has place part) : Fits place part := by
  induction h with
  | root => exact hroot
  | parentheses _ ih =>
    cases ih with
    | condition _ h => exact fits_inner h
    | value h => cases h
    | parenthesizedValue h => exact fits_inner h
  | mark _ ih =>
    cases ih with
    | condition _ h =>
      cases h with
      | negated hvalue => exact .condition rfl hvalue
      | signed _ hvalue => exact .condition rfl hvalue
    | value h => cases h
  | field _ ih =>
    cases ih with
    | condition _ h =>
      cases h with
      | field _ _ _ hvalue => exact .value hvalue
      | fieldParenthesized _ _ _ hvalue => exact .parenthesizedValue hvalue
    | value h => cases h
  | comparison _ ih =>
    cases ih with
    | condition _ h => cases h
    | value h =>
      cases h with
      | comparison hraw => exact .compared hraw
  | item _ hpart ih =>
    cases ih with
    | condition _ h => cases h
    | value h => cases h
    | sequence _ h =>
      rcases h.alternate _ _ hpart with ⟨heven, s, hs⟩ | ⟨hodd, op, rfl⟩
      · exact .condition (decide_eq_true heven) hs
      · exact .operator hodd

theorem isCondition_of_spells {q : Query} {s : Text} (h : Spells [q] s) : q.isCondition := by
  cases h <;> rfl

theorem isKeyword_of_mem {raw : Text} (h : raw ∈ (["AND", "OR", "NOT"] : List Text)) :
    (Query.term raw).isKeyword := by
  have hall : ∀ raw ∈ (["AND", "OR", "NOT"] : List Text), (Query.term raw).isKeyword := by decide
  exact hall raw h

theorem Fits.spells {place : Place} {items : List Query} (h : Fits place (.sequence items)) :
    (place = .root ∨ place = .parentheses) ∧ 2 ≤ items.length ∧ ∃ s, Spells items s := by
  cases h with
  | condition _ h => cases h
  | value h => cases h
  | sequence hplace h hlength => exact ⟨hplace, hlength, _, h⟩

theorem Fits.field {place : Place} {name : Text} {value : Query} (h : Fits place (.field name value)) :
    name ≠ [] ∧ value.isValue := by
  cases h with
  | condition _ h =>
    cases h with
    | field hname _ _ hvalue => exact ⟨hname.ne_nil, by cases hvalue <;> rfl⟩
    | fieldParenthesized hname => exact ⟨hname.ne_nil, rfl⟩
  | value h => cases h

theorem wellFormed_of_fits {q : Query} (h : Fits .root q) : q.WellFormed where
  sequence_place hpart := (fits_of_has h hpart).spells.1
  sequence_length hpart := by
    obtain ⟨-, hlength, s, hs⟩ := (fits_of_has h hpart).spells
    have hodd := hs.length
    omega
  sequence_item hpart hitem := by
    obtain ⟨-, -, s, hs⟩ := (fits_of_has h hpart).spells
    rcases hs.alternate _ _ hitem with ⟨heven, u, hu⟩ | ⟨hodd, hop⟩
    · exact ⟨fun _ => isCondition_of_spells hu, by omega⟩
    · exact ⟨by omega, fun _ => hop⟩
  operator_place hpart := by
    cases fits_of_has h hpart with
    | condition _ h => cases h
    | value h => cases h
    | operator hodd => exact ⟨_, rfl, hodd⟩
  field_value hpart := (fits_of_has h hpart).field.2
  plainValue_place hpart hvalue := by
    cases fits_of_has h hpart with
    | condition _ h => cases h <;> simp [Query.isPlainValue] at hvalue
    | value => rfl
    | parenthesizedValue => rfl
    | compared => simp [Query.isPlainValue] at hvalue
    | sequence => simp [Query.isPlainValue] at hvalue
    | operator => simp [Query.isPlainValue] at hvalue
  comparison_value hpart := by
    cases fits_of_has h hpart with
    | condition _ h => cases h
    | value h =>
      cases h with
      | comparison => exact ⟨_, rfl⟩
  term_ne_nil hpart := by
    cases fits_of_has h hpart with
    | condition _ h =>
      cases h with
      | word hraw => exact hraw.ne_nil
    | value h =>
      cases h with
      | word hraw => exact hraw.ne_nil
    | compared hraw => exact hraw.ne_nil
  name_ne_nil hpart := (fits_of_has h hpart).field.1
  bounds_ne_nil hpart := by
    cases fits_of_has h hpart with
    | condition _ h => cases h
    | value h =>
      cases h with
      | range hlower _ hupper => exact ⟨hlower.ne_nil, hupper.ne_nil⟩
  not_after_either hpart heither hvalue := by
    obtain ⟨-, -, s, hs⟩ := (fits_of_has h hpart).spells
    exact (hs.eitherGuarded _ _ heither hvalue).1 _ rfl
  keyword_after_either hpart heither hterm hraw := by
    obtain ⟨-, -, s, hs⟩ := (fits_of_has h hpart).spells
    exact (hs.eitherGuarded _ _ heither hterm).2 (isKeyword_of_mem hraw)

end SearchQuery
