import SearchQuery.Format
import SearchQuery.Proofs.Spelling

/-! # Layouts are spellings -/

namespace SearchQuery

namespace Doc

/-! ## What documents are printed as -/

mutual

/-- The text shows the document: breaks are blanks, and everything else stands as it is. -/
def Shows : Doc → Text → Prop
  | text t, f => f = t
  | concat parts, f => ShowsAll parts f
  | softBreak, f | hardBreak, f => Blank f ∧ f ≠ []
  | emptyBreak, f => Blank f
  | group inner, f | nest _ inner, f | hang _ inner, f => inner.Shows f
  | enclose opening closing inner, f => ∃ middle, inner.Shows middle ∧ f = opening ++ (middle ++ closing)

def ShowsAll : List Doc → Text → Prop
  | [], f => f = []
  | part :: later, f => ∃ s u, part.Shows s ∧ ShowsAll later u ∧ f = s ++ u

end

section

variable (measure : Text → Nat) (width : Nat)

theorem writeText_strokes (mode : Mode) (t : Text) (column : Nat) :
    (writeText measure mode t column).strokes.flatMap Stroke.text = t := by
  simp [writeText, Stroke.text]

theorem startLine_eq (indent : Nat) :
    (startLine indent).text = '\n' :: List.replicate indent ' ' := by
  simp [startLine, Printed.text, Stroke.text]

theorem startLine_text (indent : Nat) :
    Blank (startLine indent).text ∧ (startLine indent).text ≠ [] := by
  rw [startLine_eq]
  refine ⟨fun x hx => ?_, by simp⟩
  simp only [List.mem_cons, List.mem_replicate] at hx
  rcases hx with rfl | ⟨-, rfl⟩
  · decide
  · decide

mutual

/-- The printer shows the document at any width, wherever it starts. -/
theorem shows_print (mode : Mode) (indent column : Nat) : (doc : Doc) →
    doc.Shows (doc.print measure width mode indent column).text
  | text t => by
    rw [print, Shows, Printed.text, writeText_strokes]
  | concat parts => by
    rw [print, Shows]
    exact showsAll_printAll mode indent column parts
  | softBreak => by
    cases mode with
    | flat =>
      rw [print, Shows, Printed.text, writeText_strokes]
      exact ⟨blank_space, by decide⟩
    | broken =>
      rw [print, Shows]
      exact startLine_text indent
  | emptyBreak => by
    cases mode with
    | flat =>
      rw [print, Shows]
      exact blank_nil
    | broken =>
      rw [print, Shows]
      exact (startLine_text indent).1
  | hardBreak => by
    rw [print, Shows]
    exact startLine_text indent
  | group inner => by
    cases mode with
    | flat =>
      rw [print, Shows]
      exact shows_print .flat indent column inner
    | broken =>
      rw [print, Shows]
      exact shows_print _ indent column inner
  | nest amount inner => by
    rw [print, Shows]
    exact shows_print mode (indent + amount) column inner
  | hang amount inner => by
    rw [print, Shows]
    exact shows_print mode (column + amount) column inner
  | enclose opening closing inner => by
    rw [print, Shows]
    refine ⟨_, shows_print mode indent (writeText measure mode opening column).column inner, ?_⟩
    simp only [Printed.text, List.flatMap_append, writeText_strokes, List.append_assoc]

theorem showsAll_printAll (mode : Mode) (indent column : Nat) : (parts : List Doc) →
    ShowsAll parts (printAll measure width mode indent column parts).text
  | [] => by
    rw [printAll, ShowsAll]
    rfl
  | part :: later => by
    rw [printAll, ShowsAll]
    refine ⟨_, _, shows_print mode indent column part, ?_, List.flatMap_append ..⟩
    exact showsAll_printAll mode indent _ later

end

end

/-! ## Parts of sequences -/

/-- Something other than a break is printed first. -/
def Solid (doc : Doc) : Prop := doc.isEmpty = false ∧ doc.startsWithBreak = false

theorem solid_text {t : Text} (h : t ≠ []) : Solid (text t) := by
  simp [Solid, isEmpty, startsWithBreak, h]

theorem solid_concat {first : Doc} {later : List Doc} (h : Solid first) :
    Solid (concat (first :: later)) := by
  obtain ⟨hempty, hbreak⟩ := h
  simp [Solid, isEmpty, allEmpty, startsWithBreak, firstIsBreak, hempty, hbreak]

theorem solid_enclose {opening closing : Text} (h : opening ≠ []) (inner : Doc) :
    Solid (enclose opening closing inner) := by
  simp [Solid, isEmpty, startsWithBreak, h]

theorem solid_wrap {style : Style} {doc : Doc} (h : Solid doc) : Solid (style.wrap doc) := by
  cases style <;> exact h

theorem shows_wrap {style : Style} {doc : Doc} {f : Text} :
    (style.wrap doc).Shows f ↔ doc.Shows f := by
  cases style <;> simp only [Style.wrap, Shows]

theorem separate_singleton {doc : Doc} (h : Solid doc) : separate [doc] = [doc] := by
  simp [separate, h.1]

theorem separate_either {first either next : Doc} {later : List Doc} (h : Solid first)
    (hempty : either.isEmpty) (hnext : Solid next) :
    separate (first :: either :: next :: later) = first :: softBreak :: separate (next :: later) := by
  simp [separate, h.1, hempty, hnext.1, hnext.2]

theorem separate_operator {first operator next : Doc} {later : List Doc} (h : Solid first)
    (hne : operator.isEmpty = false) (hbreak : operator.startsWithBreak) (hnext : Solid next) :
    separate (first :: operator :: next :: later) =
      first :: operator :: softBreak :: separate (next :: later) := by
  simp [separate, h.1, hne, hbreak, hnext.1, hnext.2]

theorem showsAll_singleton {doc : Doc} {f : Text} : ShowsAll [doc] f ↔ doc.Shows f := by
  simp [ShowsAll]

end Doc

/-! ## Layouts of spellings -/

section

open Doc

variable {style : Style}

theorem layouts_cons (first : Query) (later : List Query) :
    Query.layouts style (first :: later) = first.layout style :: Query.layouts style later := by
  rw [Query.layouts]

theorem layout_signed {mark : Mark} (h : mark ≠ .not) (value : Query) :
    (Query.marked mark value).layout style =
      style.wrap (.concat [.text mark.text, value.layout style]) := by
  cases mark with
  | not => exact absurd rfl h
  | plus => simp [Query.layout]
  | minus => simp [Query.layout]

theorem layout_operator {op : Operator} (h : op ≠ .either) :
    (Query.operator op).layout style = .concat [.softBreak, .text op.text] := by
  cases op with
  | either => exact absurd rfl h
  | _ => simp [Query.layout]

theorem layout_either : ((Query.operator .either).layout style).isEmpty := by
  rw [Query.layout]
  rfl

theorem SpellsValue.layout {q : Query} {s f : Text} (h : SpellsValue q s)
    (hf : (q.layout style).Shows f) : SpellsValue q f := by
  cases h with
  | range hlower hclosed hupper hclosed' =>
    simp only [Query.layout, shows_wrap, Shows, ShowsAll] at hf
    obtain ⟨_, _, rfl, ⟨b₁, _, hb₁, ⟨_, _, rfl, ⟨_, _, rfl, ⟨_, _, rfl, ⟨b₄, _, hb₄,
      ⟨_, _, rfl, rfl, rfl⟩, rfl⟩, rfl⟩, rfl⟩, rfl⟩, rfl⟩, rfl⟩ := hf
    rw [List.append_nil]
    exact .range hlower hclosed hupper hclosed' hb₁ blank_space (by simp) blank_space (by simp) hb₄
  | comparison hraw hcomparable =>
    simp only [Query.layout, Shows, ShowsAll] at hf
    obtain ⟨_, _, rfl, ⟨_, _, rfl, rfl, rfl⟩, rfl⟩ := hf
    rw [List.append_nil]
    exact .comparison hraw hcomparable
  | regex hbody =>
    simp only [Query.layout, Shows] at hf
    obtain ⟨_, rfl, rfl⟩ := hf
    exact .regex hbody
  | word hraw hfree =>
    simp only [Query.layout, Shows] at hf
    subst hf
    exact .word hraw hfree

theorem Spells.solid {first : Query} {later : List Query} {s : Text}
    (h : Spells (first :: later) s) : Solid (first.layout style) := by
  generalize hitems : first :: later = items at h
  induction h generalizing first later with
  | word hraw =>
    obtain ⟨rfl, -⟩ := List.cons.inj hitems
    rw [Query.layout]
    exact solid_text hraw.ne_nil
  | parenthesized =>
    obtain ⟨rfl, -⟩ := List.cons.inj hitems
    rw [Query.layout]
    exact solid_wrap (solid_enclose (by simp) _)
  | negated =>
    obtain ⟨rfl, -⟩ := List.cons.inj hitems
    rw [Query.layout]
    exact solid_wrap (solid_concat (solid_text (Mark.starts .not []).ne_nil))
  | @signed mark _ _ hmark =>
    obtain ⟨rfl, -⟩ := List.cons.inj hitems
    rw [layout_signed hmark]
    refine solid_wrap (solid_concat (solid_text ?_))
    cases mark <;> simp [Mark.text]
  | field hname =>
    obtain ⟨rfl, -⟩ := List.cons.inj hitems
    rw [Query.layout]
    exact solid_concat (solid_text hname.ne_nil)
  | fieldParenthesized hname =>
    obtain ⟨rfl, -⟩ := List.cons.inj hitems
    rw [Query.layout]
    exact solid_concat (solid_text hname.ne_nil)
  | either _ _ _ _ _ _ _ _ ih =>
    obtain ⟨rfl, -⟩ := List.cons.inj hitems
    exact ih rfl
  | operator _ _ _ _ _ _ _ _ _ ih =>
    obtain ⟨rfl, -⟩ := List.cons.inj hitems
    exact ih rfl

theorem Spells.separate_layouts {q : Query} {s : Text} (h : Spells [q] s) :
    separate (Query.layouts style [q]) = [q.layout style] := by
  rw [Query.layouts, Query.layouts, separate_singleton h.solid]

theorem Spells.showsAll_singleton {q : Query} {s f : Text} (h : Spells [q] s) :
    ShowsAll (separate (Query.layouts style [q])) f ↔ (q.layout style).Shows f := by
  rw [h.separate_layouts, Doc.showsAll_singleton]

theorem Spells.shows_ofItems? {items : List Query} {q : Query} {s f : Text} (h : Spells items s)
    (hq : Query.ofItems? items = some q) :
    (q.layout style).Shows f ↔ ShowsAll (separate (Query.layouts style items)) f := by
  match items, hq with
  | [item], rfl => exact h.showsAll_singleton.symm
  | first :: next :: later, rfl => rw [Query.layout, Shows, Shows]

/-- The layout of some items is another spelling of them. -/
theorem Spells.layout {items : List Query} {s f : Text} (h : Spells items s)
    (hf : ShowsAll (separate (Query.layouts style items)) f) : Spells items f := by
  induction h generalizing f with
  | word hraw hfree =>
    rw [(Spells.word hraw hfree).showsAll_singleton, Query.layout, Shows] at hf
    subst hf
    exact .word hraw hfree
  | parenthesized hitems hclosed hinner h₁ h₂ ih =>
    rw [(Spells.parenthesized hitems hclosed hinner h₁ h₂).showsAll_singleton] at hf
    simp only [Query.layout, shows_wrap, Shows, ShowsAll] at hf
    obtain ⟨_, ⟨b₁, _, hb₁, ⟨s, _, hs, ⟨b₂, _, hb₂, rfl, rfl⟩, rfl⟩, rfl⟩, rfl⟩ := hf
    rw [hitems.shows_ofItems? hinner] at hs
    simpa only [List.append_nil, List.append_assoc] using
      Spells.parenthesized (ih hs) hclosed hinner hb₁ hb₂
  | negated hvalue hb hne ih =>
    rw [(Spells.negated hvalue hb hne).showsAll_singleton] at hf
    simp only [Query.layout, shows_wrap, Shows, ShowsAll] at hf
    obtain ⟨_, _, rfl, ⟨b, _, ⟨hb, hne⟩, ⟨s, _, hs, rfl, rfl⟩, rfl⟩, rfl⟩ := hf
    rw [List.append_nil]
    exact .negated (ih (hvalue.showsAll_singleton.mpr hs)) hb hne
  | signed hmark hvalue ih =>
    rw [(Spells.signed hmark hvalue).showsAll_singleton, layout_signed hmark] at hf
    simp only [shows_wrap, Shows, ShowsAll] at hf
    obtain ⟨_, _, rfl, ⟨s, _, hs, rfl, rfl⟩, rfl⟩ := hf
    rw [List.append_nil]
    exact .signed hmark (ih (hvalue.showsAll_singleton.mpr hs))
  | field hname hclosed hfree hvalue =>
    rw [(Spells.field hname hclosed hfree hvalue).showsAll_singleton] at hf
    simp only [Query.layout, Shows, ShowsAll] at hf
    obtain ⟨_, _, rfl, ⟨_, _, rfl, ⟨s, _, hs, rfl, rfl⟩, rfl⟩, rfl⟩ := hf
    rw [List.append_nil]
    exact .field hname hclosed hfree (hvalue.layout hs)
  | fieldParenthesized hname hclosed hfree hvalue ih =>
    rw [(Spells.fieldParenthesized hname hclosed hfree hvalue).showsAll_singleton, Query.layout] at hf
    simp only [Shows, ShowsAll] at hf
    obtain ⟨_, _, rfl, ⟨_, _, rfl, ⟨s, _, hs, rfl, rfl⟩, rfl⟩, rfl⟩ := hf
    rw [List.append_nil]
    exact .fieldParenthesized hname hclosed hfree (ih (hvalue.showsAll_singleton.mpr hs))
  | either hfirst hclosed hnot _ _ hmark hkeyword hlater ih ih' =>
    rw [layouts_cons, layouts_cons, layouts_cons,
      separate_either hfirst.solid layout_either hlater.solid, ← layouts_cons] at hf
    simp only [Shows, ShowsAll] at hf
    obtain ⟨s, _, hs, ⟨b, u, ⟨hb, hne⟩, hu, rfl⟩, rfl⟩ := hf
    exact .either (ih (hfirst.showsAll_singleton.mpr hs)) hclosed hnot hb hne hmark hkeyword (ih' hu)
  | operator hop hfirst hclosed hnot _ _ _ _ hlater ih ih' =>
    rw [layouts_cons, layouts_cons, layouts_cons, layout_operator hop,
      separate_operator hfirst.solid rfl rfl hlater.solid, ← layouts_cons] at hf
    simp only [Shows, ShowsAll] at hf
    obtain ⟨s, _, hs, ⟨_, _, ⟨b₁, _, ⟨hb₁, hne₁⟩, ⟨_, _, rfl, rfl, rfl⟩, rfl⟩,
      ⟨b₂, u, ⟨hb₂, hne₂⟩, hu, rfl⟩, rfl⟩, rfl⟩ := hf
    -- There are blanks on both sides of an operator, so it is never glued.
    simpa only [List.append_nil, List.append_assoc] using
      Spells.operator hop (ih (hfirst.showsAll_singleton.mpr hs)) hclosed hnot hb₁
        (fun h => absurd h hne₁) hb₂ (fun h => absurd h hne₂) (ih' hu)

end

end SearchQuery
