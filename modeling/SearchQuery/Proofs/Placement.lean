import SearchQuery.Proofs.Layout
import SearchQuery.Proofs.Unambiguous

/-! # Where groups stand

Layouts put a group only where its line can end, so that nothing but a break comes after it.
-/

namespace SearchQuery

/-- What is known of a line between two documents. -/
inductive Room where
  /-- Texts can follow on the line. -/
  | free
  /-- A group may have ended there, so that only a break can follow. -/
  | taken
deriving DecidableEq, Repr

namespace Doc

/-- The document can stand on a line with the room that is given first, and leaves the room that is
given last. -/
inductive Placed : Room → Doc → Room → Prop
  | text (t : Text) (after : Room) : Placed .free (text t) after
  | softBreak (before after : Room) : Placed before softBreak after
  | emptyBreak (before after : Room) : Placed before emptyBreak after
  | nil (room : Room) : Placed room (concat []) room
  | cons {before middle after : Room} {first : Doc} {later : List Doc}
      (h : Placed before first middle) (hlater : Placed middle (concat later) after) :
      Placed before (concat (first :: later)) after
  | group {after : Room} {inner : Doc} (h : Placed .free inner after) :
      Placed .free (group inner) .taken
  | nest {after : Room} {inner : Doc} (amount : Nat) (h : Placed .free inner after) :
      Placed .free (nest amount inner) after
  | hang {after : Room} {inner : Doc} (amount : Nat) (h : Placed .free inner after) :
      Placed .free (hang amount inner) after
  -- Delimiters touch what they enclose, so no group may come last in it.
  | enclose {opening closing : Text} {inner : Doc} (hopening : '\n' ∉ opening)
      (hclosing : '\n' ∉ closing) (h : Placed .free inner .free) (after : Room) :
      Placed .free (enclose opening closing inner) after

theorem placed_singleton {before after : Room} {doc : Doc} :
    Placed before (concat [doc]) after ↔ Placed before doc after := by
  constructor
  · intro h
    cases h with
    | cons h hlater =>
      cases hlater
      exact h
  · intro h
    exact h.cons (.nil after)

theorem Placed.wrap {style : Style} {doc : Doc} {after : Room} (h : Placed .free doc after) :
    Placed .free (style.wrap doc) .taken := by
  cases style with
  | compact => exact (h.hang 1).group
  | indented => exact (h.nest 2).group

end Doc

/-! ## Layouts -/

section

open Doc

variable {style : Style}

theorem SpellsValue.placed {q : Query} {s : Text} (h : SpellsValue q s) :
    Placed .free (q.layout style) .taken := by
  cases h with
  | range =>
    rw [Query.layout]
    have hclosing {closing : Text} : Placed .free (concat [emptyBreak, text closing]) .free :=
      .cons (.emptyBreak .free .free) (placed_singleton.mpr (.text closing .free))
    exact Placed.wrap (.cons (.text _ .free) (.cons (.emptyBreak .free .free)
      (.cons (.text _ .free) (.cons (.text _ .free) (.cons (.text _ .free) hclosing)))))
  | comparison =>
    rw [Query.layout, Query.layout]
    exact .cons (.text _ .free) (placed_singleton.mpr (.text _ .taken))
  | regex =>
    rw [Query.layout]
    exact .enclose (by simp) (by simp) (.text _ .free) .taken
  | word =>
    rw [Query.layout]
    exact .text _ .taken

theorem Spells.placed_singleton {q : Query} {s : Text} (h : Spells [q] s) :
    Placed .free (concat (separate (Query.layouts style [q]))) .taken ↔
      Placed .free (q.layout style) .taken := by
  rw [h.separate_layouts, Doc.placed_singleton]

theorem Spells.placed_ofItems? {items : List Query} {q : Query} {s : Text} (h : Spells items s)
    (hq : Query.ofItems? items = some q)
    (hitems : Placed .free (concat (separate (Query.layouts style items))) .taken) :
    Placed .free (q.layout style) .taken := by
  match items, hq with
  | [item], rfl => exact h.placed_singleton.mp hitems
  | first :: next :: later, rfl =>
    rw [Query.layout]
    exact hitems.group

/-- Between two conditions there is always a break that a line can end at. -/
theorem Spells.placed {items : List Query} {s : Text} (h : Spells items s) :
    Placed .free (concat (separate (Query.layouts style items))) .taken := by
  induction h with
  | word hraw hfree =>
    rw [(Spells.word hraw hfree).placed_singleton, Query.layout]
    exact .text _ .taken
  | parenthesized hitems hclosed hinner h₁ h₂ ih =>
    rw [(Spells.parenthesized hitems hclosed hinner h₁ h₂).placed_singleton, Query.layout]
    -- The second break frees the line for the closing parenthesis.
    have hinside := hitems.placed_ofItems? hinner ih
    have hafter := Doc.placed_singleton.mpr (.emptyBreak .taken .free)
    exact Placed.wrap (.enclose (by simp) (by simp)
      (.cons (.emptyBreak .free .free) (hinside.cons hafter)) .taken)
  | negated hvalue hb hne ih =>
    rw [(Spells.negated hvalue hb hne).placed_singleton, Query.layout]
    have hvalue' := hvalue.placed_singleton.mp ih
    exact Placed.wrap (.cons (.text _ .free)
      (.cons (.softBreak .free .free) (Doc.placed_singleton.mpr hvalue')))
  | signed hmark hvalue ih =>
    rw [(Spells.signed hmark hvalue).placed_singleton, layout_signed hmark]
    have hvalue' := hvalue.placed_singleton.mp ih
    exact Placed.wrap (.cons (.text _ .free) (Doc.placed_singleton.mpr hvalue'))
  | field hname hclosed hfree hvalue =>
    rw [(Spells.field hname hclosed hfree hvalue).placed_singleton, Query.layout]
    exact .cons (.text _ .free) (.cons (.text _ .free) (Doc.placed_singleton.mpr hvalue.placed))
  | fieldParenthesized hname hclosed hfree hvalue ih =>
    rw [(Spells.fieldParenthesized hname hclosed hfree hvalue).placed_singleton, Query.layout]
    have hvalue' := hvalue.placed_singleton.mp ih
    exact .cons (.text _ .free) (.cons (.text _ .free) (Doc.placed_singleton.mpr hvalue'))
  | either hfirst hclosed hnot _ _ hmark hkeyword hlater ih ih' =>
    rw [layouts_cons, layouts_cons, layouts_cons,
      separate_either hfirst.solid layout_either hlater.solid, ← layouts_cons]
    have hfirst' := hfirst.placed_singleton.mp ih
    exact hfirst'.cons (.cons (.softBreak .taken .free) ih')
  | @operator op _ _ _ _ _ _ _ hop hfirst hclosed hnot _ _ _ _ hlater ih ih' =>
    have hfirst' := hfirst.placed_singleton.mp ih
    have hoperator : Placed .taken (concat [softBreak, text op.text]) .free :=
      .cons (.softBreak .taken .free) (Doc.placed_singleton.mpr (.text _ .free))
    rw [layouts_cons, layouts_cons, layouts_cons, layout_operator hop,
      separate_operator hfirst.solid rfl rfl hlater.solid, ← layouts_cons]
    exact hfirst'.cons (hoperator.cons (.cons (.softBreak .free .free) ih'))

theorem placed_of_parse {t : Text} {q : Query} (h : parse t = .ok q) (style : Style) :
    Placed .free (q.layout style) .taken := by
  obtain ⟨items, _, s, _, hq, hspells, -⟩ := parse_eq_ok_iff.mp h
  exact hspells.placed_ofItems? hq hspells.placed

end

end SearchQuery
