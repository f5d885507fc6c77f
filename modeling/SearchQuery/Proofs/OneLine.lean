import Mathlib.Data.List.Basic
import SearchQuery.Proofs.RoundTrip
import SearchQuery.Proofs.Styles
import SearchQuery.Proofs.WellFormed

/-! # Queries on one line -/

namespace SearchQuery

namespace Query

/-! ## Captured texts -/

mutual

/-- The texts that stand in the query as they were written. -/
def captured : Query → List Text
  | operator _ => []
  | parenthesized inner => inner.captured
  | marked _ value => value.captured
  | field name value => name :: value.captured
  | range _ lower upper _ => [lower, upper]
  | comparison _ value => value.captured
  | regex expression => [expression]
  | term raw => [raw]
  | sequence items => allCaptured items

def allCaptured : List Query → List Text
  | [] => []
  | item :: later => item.captured ++ allCaptured later

end

end Query

namespace Doc

theorem hasHardBreak_wrap (style : Style) (doc : Doc) :
    (style.wrap doc).hasHardBreak = doc.hasHardBreak := by
  cases style <;> simp [Style.wrap, hasHardBreak]

mutual

theorem hasHardBreak_of_isEmpty : (doc : Doc) → doc.isEmpty → doc.hasHardBreak = false
  | text t, h => by
    unfold isEmpty at h
    unfold hasHardBreak
    rw [List.isEmpty_iff.mp h]
    rfl
  | concat parts, h => by
    unfold isEmpty at h
    unfold hasHardBreak
    exact anyHardBreak_of_allEmpty parts h
  | softBreak, h | emptyBreak, h | hardBreak, h => by
    simp [isEmpty] at h
  | group inner, h | nest _ inner, h | hang _ inner, h => by
    unfold isEmpty at h
    unfold hasHardBreak
    exact hasHardBreak_of_isEmpty inner h
  | enclose opening closing inner, h => by
    unfold isEmpty at h
    rw [Bool.and_eq_true] at h
    unfold hasHardBreak
    exact hasHardBreak_of_isEmpty inner h.2

theorem anyHardBreak_of_allEmpty : (parts : List Doc) → allEmpty parts →
    anyHardBreak parts = false
  | [], _ => by rw [anyHardBreak]
  | part :: later, h => by
    unfold allEmpty at h
    rw [Bool.and_eq_true] at h
    unfold anyHardBreak
    rw [hasHardBreak_of_isEmpty part h.1, anyHardBreak_of_allEmpty later h.2]
    rfl

end

theorem anyHardBreak_iff {docs : List Doc} :
    anyHardBreak docs ↔ ∃ doc ∈ docs, doc.hasHardBreak := by
  induction docs with
  | nil => simp [anyHardBreak]
  | cons doc docs ih => simp [anyHardBreak, ih]

theorem mem_separate {docs : List Doc} {doc : Doc} (h : doc ∈ separate docs) :
    doc = softBreak ∨ doc ∈ docs := by
  have hkept {doc : Doc} (h : doc ∈ docs.filter (!·.isEmpty)) : doc ∈ docs :=
    List.mem_of_mem_filter h
  unfold separate at h
  cases hdocs : docs.filter (!·.isEmpty) with
  | nil => simp [hdocs] at h
  | cons first later =>
    rw [hdocs] at h hkept
    simp only [List.mem_cons, List.mem_flatMap] at h hkept
    rcases h with rfl | ⟨part, hpart, h⟩
    · exact .inr (hkept (.inl rfl))
    · split at h
      · obtain rfl : doc = part := by simpa using h
        exact .inr (hkept (.inr hpart))
      · rcases List.mem_cons.mp h with rfl | h
        · exact .inl rfl
        · obtain rfl : doc = part := by simpa using h
          exact .inr (hkept (.inr hpart))

theorem mem_separate_of_mem {docs : List Doc} {doc : Doc} (h : doc ∈ docs)
    (hne : doc.isEmpty = false) : doc ∈ separate docs := by
  have hkept : doc ∈ docs.filter (!·.isEmpty) := List.mem_filter.mpr ⟨h, by simp [hne]⟩
  unfold separate
  cases hdocs : docs.filter (!·.isEmpty) with
  | nil => simp [hdocs] at hkept
  | cons first later =>
    rw [hdocs] at hkept
    simp only [List.mem_cons, List.mem_flatMap] at hkept ⊢
    refine hkept.imp_right fun hlater => ⟨doc, hlater, ?_⟩
    split <;> simp

theorem anyHardBreak_separate (docs : List Doc) :
    anyHardBreak (separate docs) = anyHardBreak docs := by
  rw [Bool.eq_iff_iff, anyHardBreak_iff, anyHardBreak_iff]
  constructor
  · rintro ⟨doc, hdoc, hhard⟩
    rcases mem_separate hdoc with rfl | hdoc
    · simp [hasHardBreak] at hhard
    · exact ⟨doc, hdoc, hhard⟩
  · rintro ⟨doc, hdoc, hhard⟩
    refine ⟨doc, mem_separate_of_mem hdoc ?_, hhard⟩
    by_contra hempty
    simp [hasHardBreak_of_isEmpty doc (by simpa using hempty)] at hhard

end Doc

namespace Query

open Doc

variable {style : Style}

mutual

theorem hasHardBreak_layout_eq : (q : Query) →
    (q.layout style).hasHardBreak = q.captured.any (·.contains '\n')
  | operator op => by
    cases op <;> simp [layout, captured, hasHardBreak, anyHardBreak, Operator.text]
  | parenthesized inner => by
    simp [layout, captured, hasHardBreak_wrap, hasHardBreak, anyHardBreak,
      hasHardBreak_layout_eq inner]
  | marked mark value => by
    cases mark <;>
      simp [layout, captured, hasHardBreak_wrap, hasHardBreak, anyHardBreak, Mark.text,
        hasHardBreak_layout_eq value]
  | field name value => by
    simp [layout, captured, hasHardBreak, anyHardBreak, hasHardBreak_layout_eq value]
  | range opening lower upper closing => by
    cases opening <;> cases closing <;>
      simp [layout, captured, hasHardBreak_wrap, hasHardBreak, anyHardBreak, Edge.opening,
        Edge.closing]
  | comparison operand value => by
    cases operand <;>
      simp [layout, captured, hasHardBreak, anyHardBreak, Comparison.text,
        hasHardBreak_layout_eq value]
  | regex expression | term expression => by
    simp [layout, captured, hasHardBreak]
  | sequence items => by
    rw [layout, hasHardBreak, hasHardBreak, anyHardBreak_separate, anyHardBreak_layouts items,
      captured]

theorem anyHardBreak_layouts : (items : List Query) →
    anyHardBreak (layouts style items) = (allCaptured items).any (·.contains '\n')
  | [] => by
    rw [layouts, anyHardBreak, allCaptured, List.any_nil]
  | item :: later => by
    rw [layouts, anyHardBreak, allCaptured, List.any_append, hasHardBreak_layout_eq item,
      anyHardBreak_layouts later]

end

theorem hasHardBreak_layout (q : Query) (h : ∀ s ∈ q.captured, '\n' ∉ s) :
    (q.layout style).hasHardBreak = false := by
  simpa [hasHardBreak_layout_eq] using h

end Query

/-! ## Where a line can end -/

section

open Doc

variable {style : Style}

theorem SpellsValue.isGrouped {q : Query} {s : Text} (h : SpellsValue q s) :
    (q.layout style).isGrouped := by
  cases h with
  | range => cases style <;> simp [Query.layout, Style.wrap, Doc.isGrouped]
  | comparison | regex | word => simp [Query.layout, Doc.isGrouped, allGrouped]

theorem Spells.isGrouped {q : Query} {s : Text} (h : Spells [q] s) :
    (q.layout style).isGrouped := by
  have hwrap {doc : Doc} : (style.wrap doc).isGrouped := by
    cases style <;> simp [Style.wrap, Doc.isGrouped]
  cases h with
  | word => simp [Query.layout, Doc.isGrouped]
  | parenthesized | negated => simp [Query.layout, hwrap]
  | signed hmark => simp [layout_signed hmark, hwrap]
  | field _ _ _ hvalue =>
    simp [Query.layout, Doc.isGrouped, allGrouped, hvalue.isGrouped]
  | fieldParenthesized => simp [Query.layout, Doc.isGrouped, allGrouped, hwrap]

theorem isGrouped_of_parse {t : Text} {q : Query} (h : parse t = .ok q) :
    (q.layout style).isGrouped := by
  obtain ⟨items, _, s, _, hq, hspells, -⟩ := parse_eq_ok_iff.mp h
  match items, hq with
  | [item], rfl => exact hspells.isGrouped
  | _ :: _ :: _, rfl => simp [Query.layout, Doc.isGrouped]

/-- The query is laid out with a place for the end of a line. -/
def Query.isBreakable : Query → Bool
  | .sequence _ | .parenthesized _ | .marked .not _ | .range _ _ _ _ => true
  | _ => false

theorem hasBreak_wrap (doc : Doc) : (style.wrap doc).hasBreak = doc.hasBreak := by
  cases style <;> simp [Style.wrap, Doc.hasBreak]

theorem Fits.hasBreak_sequence {place : Place} {items : List Query}
    (h : Fits place (.sequence items)) : ((Query.sequence items).layout style).hasBreak := by
  obtain ⟨-, hlength, s, hs⟩ := h.spells
  rw [Query.layout, Doc.hasBreak, Doc.hasBreak]
  cases hs with
  | either hfirst _ _ _ _ _ _ hlater =>
    rw [layouts_cons, layouts_cons, layouts_cons,
      separate_either hfirst.solid layout_either hlater.solid]
    simp [anyBreak, Doc.hasBreak]
  | operator hop hfirst _ _ _ _ _ _ hlater =>
    rw [layouts_cons, layouts_cons, layouts_cons, layout_operator hop,
      separate_operator hfirst.solid rfl rfl hlater.solid]
    simp [anyBreak, Doc.hasBreak]
  | _ => simp at hlength

theorem Fits.hasBreak_of_isBreakable {place : Place} {q : Query} (h : Fits place q)
    (hbreakable : q.isBreakable) : (q.layout style).hasBreak := by
  fun_cases Query.isBreakable q with
  | case1 => exact h.hasBreak_sequence
  | case2 | case3 | case4 => simp [Query.layout, hasBreak_wrap, Doc.hasBreak, anyBreak]
  | case5 => simp_all [Query.isBreakable]

/-- A query can be broken wherever a part of it can. -/
theorem hasBreak_of_has {q : Query} (hroot : Fits .root q) {place : Place} {part : Query}
    (h : q.Has place part) (hpart : (part.layout style).hasBreak) : (q.layout style).hasBreak := by
  induction h with
  | root => exact hpart
  | parentheses _ ih =>
    apply ih
    simp [Query.layout, hasBreak_wrap, Doc.hasBreak, anyBreak]
  | @mark _ mark _ _ ih =>
    apply ih
    cases mark <;> simp [Query.layout, hasBreak_wrap, Doc.hasBreak, anyBreak, hpart]
  | field _ ih | comparison _ ih =>
    apply ih
    simp [Query.layout, Doc.hasBreak, anyBreak, hpart]
  | item hsequence _ ih =>
    -- A sequence can be broken between its items, whatever they are.
    exact ih (fits_of_has hroot hsequence).hasBreak_sequence

end

theorem newline_not_mem_flatText {t : Text} {q : Query} (h : parse t = .ok q)
    (hplain : ∀ s ∈ q.captured, '\n' ∉ s) (style : Style) : '\n' ∉ (q.layout style).flatText := by
  have hhard : (q.layout style).hasHardBreak = false := q.hasHardBreak_layout hplain
  exact Doc.newline_not_mem_flatText hhard (placed_of_parse h style).newline_not_mem_delimiters

/-- A query that captures no new line is one line where it fits, the same in both styles. Where it does
not fit it has several lines, if any part of it can be broken. -/
theorem format_one_line {t : Text} {q : Query} (h : parse t = .ok q)
    (hplain : ∀ s ∈ q.captured, '\n' ∉ s) : ∃ line needed, '\n' ∉ line ∧ ∀ style,
      (q.layout style).flatText = line ∧ (q.layout style).flatWidth Text.width = needed ∧
      ∀ width, (needed ≤ width → format width style t = .ok line) ∧
        (width < needed → (∃ place part, q.Has place part ∧ part.isBreakable) →
          ∃ f, format width style t = .ok f ∧ '\n' ∈ f) := by
  refine ⟨(q.layout .indented).flatText, (q.layout .indented).flatWidth Text.width,
    newline_not_mem_flatText h hplain .indented, fun style => ?_⟩
  have halike := q.alike_layout style
  rw [halike.flatText, halike.flatWidth]
  have hhard : (q.layout style).hasHardBreak = false := q.hasHardBreak_layout hplain
  have hplaced := placed_of_parse h style
  refine ⟨rfl, rfl, fun width => ⟨fun hle => ?_, ?_⟩⟩
  · rw [format_of_parse h]
    exact congrArg Except.ok (hplaced.printPage_of_le rfl (isGrouped_of_parse h) hhard hle)
  · rintro hlt ⟨place, part, hpart, hbreakable⟩
    have hroot := fits_of_parse h
    have hbreak : (part.layout style).hasBreak :=
      (fits_of_has hroot hpart).hasBreak_of_isBreakable hbreakable
    refine ⟨_, format_of_parse h width style, ?_⟩
    exact hplaced.newline_of_lt rfl hhard (hasBreak_of_has hroot hpart hbreak) hlt

theorem format_one_line_field : ∃ q, parse "x:(a OR b)" = .ok q ∧ (∀ s ∈ q.captured, '\n' ∉ s) ∧
    (∀ style, format 10 style "x:(a OR b)" = .ok "x:(a OR b)") ∧
    ∀ style, ∃ f, format 9 style "x:(a OR b)" = .ok f ∧ '\n' ∈ f := by
  have h : parse "x:(a OR b)" = .ok (.field "x" (.parenthesized (.sequence
      [.term "a", .operator .or, .term "b"]))) := by decide +kernel
  have hplain : ∀ s ∈ (Query.field "x" (.parenthesized (.sequence
      [.term "a", .operator .or, .term "b"]))).captured, '\n' ∉ s := by decide
  obtain ⟨line, needed, -, hline⟩ := format_one_line h hplain
  obtain ⟨rfl, rfl, -⟩ := hline .compact
  refine ⟨_, h, hplain, fun style => ?_, fun style => ?_⟩
  · exact ((hline style).2.2 10).1 (by decide)
  · exact ((hline style).2.2 9).2 (by decide) ⟨_, _, .root |>.field, rfl⟩

end SearchQuery
