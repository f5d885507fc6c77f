import SearchQuery.Proofs.OneLine

/-! # The fit test is exact -/

namespace SearchQuery

namespace Doc

/-- What was measured of a document is what the printer does with it in a flat group. -/
structure Measured (measure : Text → Nat) (doc : Doc) : Prop where
  newline_iff (width indent column : Nat) :
    '\n' ∈ (doc.print measure width .flat indent column).text ↔ doc.hasHardBreak
  /-- Neither the page nor the place on it makes a difference to the line. -/
  one_line (hhard : doc.hasHardBreak = false) (width indent column : Nat) :
    Prints (doc.print measure width .flat indent column) doc.flatText
      (column + doc.flatWidth measure)
  group_fits (hhard : doc.hasHardBreak = false) {width column : Nat}
    (hle : column + doc.flatWidth measure ≤ width) (indent : Nat) :
    '\n' ∉ ((group doc).print measure width .broken indent column).text ∧
    ((group doc).print measure width .broken indent column).column =
      column + doc.flatWidth measure

theorem measured {measure : Text → Nat} (hspace : measure " " = 1) {doc : Doc}
    (hplain : ∀ d ∈ doc.delimiters, '\n' ∉ d) : doc.Measured measure where
  newline_iff width indent column := newline_mem_print_flat measure width indent column doc hplain
  one_line hhard width indent column := prints_flat width hspace indent column doc hhard hplain
  group_fits hhard width column hle indent := by
    have hgroup := prints_group hspace hhard hplain hle indent
    rw [hgroup.text, hgroup.column]
    exact ⟨newline_not_mem_flatText hhard hplain, rfl⟩

/-! ## Delimiters of layouts -/

theorem delimiters_wrap (style : Style) (doc : Doc) :
    (style.wrap doc).delimiters = doc.delimiters := by
  cases style <;> simp [Style.wrap, delimiters]

theorem mem_allDelimiters {docs : List Doc} {d : Text} :
    d ∈ allDelimiters docs ↔ ∃ doc ∈ docs, d ∈ doc.delimiters := by
  induction docs with
  | nil => simp [allDelimiters]
  | cons doc docs ih => simp [allDelimiters, ih]

theorem allDelimiters_separate {docs : List Doc} {d : Text} (h : d ∈ allDelimiters (separate docs)) :
    d ∈ allDelimiters docs := by
  obtain ⟨doc, hdoc, hd⟩ := mem_allDelimiters.mp h
  rcases mem_separate hdoc with rfl | hdoc
  · simp [delimiters] at hd
  · exact mem_allDelimiters.mpr ⟨doc, hdoc, hd⟩

end Doc

namespace Query

open Doc

variable {style : Style}

mutual

theorem newline_not_mem_delimiters : (q : Query) → ∀ d ∈ (q.layout style).delimiters, '\n' ∉ d
  | operator op => by
    cases op <;> simp [layout, delimiters, allDelimiters]
  | parenthesized inner => by
    simpa [layout, delimiters_wrap, delimiters, allDelimiters] using
      newline_not_mem_delimiters inner
  | marked mark value => by
    cases mark <;>
      simpa [layout, delimiters_wrap, delimiters, allDelimiters] using
        newline_not_mem_delimiters value
  | field name value | comparison name value => by
    simpa [layout, delimiters, allDelimiters] using newline_not_mem_delimiters value
  | range opening lower upper closing => by
    simp [layout, delimiters_wrap, delimiters, allDelimiters]
  | regex expression => by
    simp [layout, delimiters]
  | term raw => by
    simp [layout, delimiters]
  | sequence items => by
    rw [layout, delimiters, delimiters]
    intro d hd
    exact newline_not_mem_allDelimiters items d (allDelimiters_separate hd)

theorem newline_not_mem_allDelimiters : (items : List Query) →
    ∀ d ∈ allDelimiters (layouts style items), '\n' ∉ d
  | [] => by
    simp [layouts, allDelimiters]
  | item :: later => by
    rw [layouts, allDelimiters]
    exact List.forall_mem_append.mpr
      ⟨newline_not_mem_delimiters item, newline_not_mem_allDelimiters later⟩

end

end Query

/-- The fit test is exact for documents whose delimiters have no new line, and those of queries are
such, however texts are measured. -/
theorem fit_test_exact {measure : Text → Nat} (hspace : measure " " = 1) :
    (∀ doc : Doc, (∀ d ∈ doc.delimiters, '\n' ∉ d) → doc.Measured measure) ∧
    ∀ (q : Query) (style : Style), (∀ d ∈ (q.layout style).delimiters, '\n' ∉ d) ∧
      (q.layout style).Measured measure := by
  constructor
  · intro doc hplain
    exact Doc.measured hspace hplain
  · intro q style
    exact ⟨q.newline_not_mem_delimiters, Doc.measured hspace q.newline_not_mem_delimiters⟩

theorem fit_test_exact_mixed : ∃ doc : Doc, doc = .nest 4 (.enclose "<" ">" (.concat
      [.emptyBreak, .group (.hang 3 (.text "ab")), .softBreak, .text "c"])) ∧
    Text.width " " = 1 ∧ (∀ d ∈ doc.delimiters, '\n' ∉ d) ∧ doc.hasHardBreak = false ∧
    '\n' ∉ ((Doc.group doc).print Text.width 10 .broken 0 4).text ∧
    ((Doc.group doc).print Text.width 10 .broken 0 4).column = 10 := by
  have hspace : Text.width " " = 1 := rfl
  have hplain : ∀ d ∈ (Doc.nest 4 (.enclose "<" ">" (.concat [.emptyBreak,
      .group (.hang 3 (.text "ab")), .softBreak, .text "c"]))).delimiters, '\n' ∉ d := by decide
  have hmeasured := (fit_test_exact hspace).1 _ hplain
  exact ⟨_, rfl, hspace, hplain, rfl, hmeasured.group_fits rfl (by decide) 0⟩

end SearchQuery
