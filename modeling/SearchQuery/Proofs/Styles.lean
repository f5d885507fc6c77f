import SearchQuery.Proofs.Flat
import SearchQuery.Proofs.RoundTrip

/-! # The two styles differ in blanks -/

namespace SearchQuery

namespace Doc

/-! ## Documents that differ in indentation -/

mutual

/-- The document with its lines indented two columns further than the line before, where they would be
one column past what comes first. -/
def nested : Doc → Doc
  | text t => text t
  | concat parts => concat (allNested parts)
  | softBreak => softBreak
  | emptyBreak => emptyBreak
  | hardBreak => hardBreak
  | group inner => group inner.nested
  | nest amount inner => nest amount inner.nested
  | hang amount inner => if amount = 1 then nest 2 inner.nested else hang amount inner.nested
  | enclose opening closing inner => enclose opening closing inner.nested

def allNested : List Doc → List Doc
  | [] => []
  | part :: later => part.nested :: allNested later

end

/-- The documents agree in everything that does not depend on where a line starts. -/
structure Alike (doc doc' : Doc) : Prop where
  isEmpty : doc'.isEmpty = doc.isEmpty
  startsWithBreak : doc'.startsWithBreak = doc.startsWithBreak
  hasHardBreak : doc'.hasHardBreak = doc.hasHardBreak
  flatText : doc'.flatText = doc.flatText
  flatWidth (measure : Text → Nat) : doc'.flatWidth measure = doc.flatWidth measure

theorem alike_rfl (doc : Doc) : Alike doc doc := ⟨rfl, rfl, rfl, rfl, fun _ => rfl⟩

theorem Alike.symm {doc doc' : Doc} (h : Alike doc doc') : Alike doc' doc :=
  ⟨h.isEmpty.symm, h.startsWithBreak.symm, h.hasHardBreak.symm, h.flatText.symm,
    fun measure => (h.flatWidth measure).symm⟩

theorem Alike.trans {doc doc' doc'' : Doc} (h : Alike doc doc') (h' : Alike doc' doc'') :
    Alike doc doc'' where
  isEmpty := h'.isEmpty.trans h.isEmpty
  startsWithBreak := h'.startsWithBreak.trans h.startsWithBreak
  hasHardBreak := h'.hasHardBreak.trans h.hasHardBreak
  flatText := h'.flatText.trans h.flatText
  flatWidth measure := (h'.flatWidth measure).trans (h.flatWidth measure)

theorem alike_group (inner : Doc) : Alike inner (group inner) where
  isEmpty := by rw [Doc.isEmpty]
  startsWithBreak := by rw [Doc.startsWithBreak]
  hasHardBreak := by rw [Doc.hasHardBreak]
  flatText := by rw [Doc.flatText]
  flatWidth measure := by rw [Doc.flatWidth]

theorem alike_nest (amount : Nat) (inner : Doc) : Alike inner (nest amount inner) where
  isEmpty := by rw [Doc.isEmpty]
  startsWithBreak := by rw [Doc.startsWithBreak]
  hasHardBreak := by rw [Doc.hasHardBreak]
  flatText := by rw [Doc.flatText]
  flatWidth measure := by rw [Doc.flatWidth]

theorem alike_hang (amount : Nat) (inner : Doc) : Alike inner (hang amount inner) where
  isEmpty := by rw [Doc.isEmpty]
  startsWithBreak := by rw [Doc.startsWithBreak]
  hasHardBreak := by rw [Doc.hasHardBreak]
  flatText := by rw [Doc.flatText]
  flatWidth measure := by rw [Doc.flatWidth]

theorem Alike.cons {first first' : Doc} {later later' : List Doc} (h : Alike first first')
    (hlater : Alike (concat later) (concat later')) :
    Alike (concat (first :: later)) (concat (first' :: later')) := by
  obtain ⟨hempty, hbreak, hhard, htext, hwidth⟩ := h
  obtain ⟨hempty', hbreak', hhard', htext', hwidth'⟩ := hlater
  simp only [Doc.isEmpty, Doc.startsWithBreak, Doc.hasHardBreak] at hempty' hbreak' hhard'
  simp only [Doc.flatText, Doc.flatWidth] at htext' hwidth'
  constructor
  · simp only [Doc.isEmpty, allEmpty, hempty, hempty']
  · simp only [Doc.startsWithBreak, firstIsBreak, hempty, hbreak, hbreak']
  · simp only [Doc.hasHardBreak, anyHardBreak, hhard, hhard']
  · simp only [Doc.flatText, flatTexts, htext, htext']
  · simp only [Doc.flatWidth, flatWidths, hwidth, hwidth', implies_true]

theorem Alike.enclose {inner inner' : Doc} (h : Alike inner inner') (opening closing : Text) :
    Alike (enclose opening closing inner) (enclose opening closing inner') := by
  constructor
  · simp only [Doc.isEmpty, h.isEmpty]
  · simp only [Doc.startsWithBreak, h.startsWithBreak]
  · simp only [Doc.hasHardBreak, h.hasHardBreak]
  · simp only [Doc.flatText, h.flatText]
  · simp only [Doc.flatWidth, h.flatWidth, implies_true]

mutual

theorem alike_nested : (doc : Doc) → Alike doc doc.nested
  | text t => by
    unfold nested
    exact alike_rfl (text t)
  | concat parts => by
    unfold nested
    exact alike_allNested parts
  | softBreak | emptyBreak | hardBreak => by
    unfold nested
    exact alike_rfl _
  | group inner => by
    unfold nested
    exact ((alike_group inner).symm.trans (alike_nested inner)).trans (alike_group _)
  | nest amount inner => by
    unfold nested
    exact ((alike_nest amount inner).symm.trans (alike_nested inner)).trans (alike_nest amount _)
  | hang amount inner => by
    have h := (alike_hang amount inner).symm.trans (alike_nested inner)
    unfold nested
    split
    · exact h.trans (alike_nest 2 _)
    · exact h.trans (alike_hang amount _)
  | enclose opening closing inner => by
    unfold nested
    exact (alike_nested inner).enclose opening closing

theorem alike_allNested : (parts : List Doc) → Alike (concat parts) (concat (allNested parts))
  | [] => by
    unfold allNested
    exact alike_rfl (concat [])
  | part :: later => by
    unfold allNested
    exact (alike_nested part).cons (alike_allNested later)

end

/-! ## Characters that are not blank -/

mutual

theorem visible_of_shows : (doc : Doc) → {f : Text} → doc.Shows f →
    visible f = visible doc.flatText
  | text t, f, h => by
    unfold Shows at h
    unfold flatText
    rw [h]
  | concat parts, f, h => by
    unfold Shows at h
    unfold flatText
    exact visible_of_showsAll parts h
  | softBreak, f, h | hardBreak, f, h => by
    unfold Shows at h
    unfold flatText
    rw [visible_blank h.1]
    rfl
  | emptyBreak, f, h => by
    unfold Shows at h
    unfold flatText
    rw [visible_blank h]
    rfl
  | group inner, f, h | nest _ inner, f, h | hang _ inner, f, h => by
    unfold Shows at h
    unfold flatText
    exact visible_of_shows inner h
  | enclose opening closing inner, f, h => by
    unfold Shows at h
    obtain ⟨middle, hmiddle, rfl⟩ := h
    unfold flatText
    simp only [visible_append, visible_of_shows inner hmiddle]

theorem visible_of_showsAll : (parts : List Doc) → {f : Text} → ShowsAll parts f →
    visible f = visible (flatTexts parts)
  | [], f, h => by
    unfold ShowsAll at h
    unfold flatTexts
    rw [h]
  | part :: later, f, h => by
    unfold ShowsAll at h
    obtain ⟨s, u, hs, hu, rfl⟩ := h
    unfold flatTexts
    rw [visible_append, visible_append, visible_of_shows part hs, visible_of_showsAll later hu]

end

/-! ## Sequences -/

theorem allNested_eq_map (docs : List Doc) : allNested docs = docs.map nested := by
  induction docs with
  | nil => rfl
  | cons doc docs ih => rw [allNested, ih, List.map_cons]

theorem allNested_separate (docs : List Doc) :
    allNested (separate docs) = separate (allNested docs) := by
  have hkept : (docs.map nested).filter (!·.isEmpty) = (docs.filter (!·.isEmpty)).map nested := by
    rw [List.filter_map]
    congr 2
    funext doc
    simp only [Function.comp, (alike_nested doc).isEmpty]
  rw [allNested_eq_map, allNested_eq_map]
  unfold separate
  rw [hkept]
  cases docs.filter (!·.isEmpty) with
  | nil => rfl
  | cons first later =>
    simp only [List.map_cons, List.map_flatMap, List.flatMap_map]
    congr 2
    funext doc
    rw [(alike_nested doc).startsWithBreak]
    split <;> simp [nested]

end Doc

/-! ## Layouts -/

namespace Query

mutual

/-- With its lines indented from the line before, the layout of one style is that of the other. -/
theorem nested_layout : (q : Query) → (q.layout .compact).nested = q.layout .indented
  | operator op => by
    cases op <;> simp [layout, Doc.nested, Doc.allNested]
  | parenthesized inner => by
    simp [layout, Style.wrap, Doc.nested, Doc.allNested, nested_layout inner]
  | marked mark value => by
    cases mark <;> simp [layout, Style.wrap, Doc.nested, Doc.allNested, nested_layout value]
  | field name value => by
    simp [layout, Doc.nested, Doc.allNested, nested_layout value]
  | range opening lower upper closing => by
    simp [layout, Style.wrap, Doc.nested, Doc.allNested]
  | comparison operand value => by
    simp [layout, Doc.nested, Doc.allNested, nested_layout value]
  | regex expression => by
    simp [layout, Doc.nested]
  | term raw => by
    simp [layout, Doc.nested]
  | sequence items => by
    simp [layout, Doc.nested, Doc.allNested_separate, allNested_layouts items]

theorem allNested_layouts : (items : List Query) →
    Doc.allNested (layouts .compact items) = layouts .indented items
  | [] => by
    simp [layouts, Doc.allNested]
  | item :: later => by
    simp [layouts, Doc.allNested, nested_layout item, allNested_layouts later]

end

theorem alike_layout (q : Query) (style : Style) :
    Doc.Alike (q.layout style) (q.layout .indented) := by
  cases style with
  | compact =>
    rw [← nested_layout]
    exact Doc.alike_nested _
  | indented => exact Doc.alike_rfl _

theorem visible_format (q : Query) (width : Nat) (style : Style) :
    visible (q.format width style) = visible (q.layout .indented).flatText := by
  rw [Doc.visible_of_shows _ (shows_format width style q), (q.alike_layout style).flatText]

/-- The layout of one style is that of the other but for the indentation of broken groups. Formatted in
any style and width, a query has the same characters apart from blanks. -/
theorem layout_styles_agree (q : Query) :
    (q.layout .compact).nested = q.layout .indented ∧
    Doc.Alike (q.layout .compact) (q.layout .indented) ∧
    ∀ style style' width width', ((q.layout style).render width).filter (!isSpace ·) =
      ((q.layout style').render width').filter (!isSpace ·) := by
  refine ⟨q.nested_layout, q.alike_layout .compact, ?_⟩
  intro style style' width width'
  exact (q.visible_format width style).trans (q.visible_format width' style').symm

end Query

end SearchQuery
