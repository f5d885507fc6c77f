import SearchQuery.Proofs.Flat

/-! # What is printed first -/

namespace SearchQuery

namespace Doc

mutual

/-- All texts in the document, also those that stand around a part of it. -/
def texts : Doc → List Text
  | text t => [t]
  | concat parts => allTexts parts
  | softBreak | emptyBreak | hardBreak => []
  | group inner | nest _ inner | hang _ inner => inner.texts
  | enclose opening closing inner => opening :: closing :: inner.texts

def allTexts : List Doc → List Text
  | [] => []
  | part :: later => part.texts ++ allTexts later

end

/-! ## Nothing -/

/-- Nothing was printed, and the printer is no further left than before. -/
structure PrintsNothing (printed : Printed) (column : Nat) : Prop where
  text : printed.text = []
  le_column : column ≤ printed.column

section

variable (measure : Text → Nat) (width : Nat)

theorem printsNothing_writeText (mode : Mode) (column : Nat) :
    PrintsNothing (writeText measure mode [] column) column :=
  ⟨writeText_strokes measure mode [] column, by simp [writeText]⟩

theorem printsNothing_enclose {inner : Doc} {mode : Mode} {indent : Nat}
    (h : ∀ column, PrintsNothing (inner.print measure width mode indent column) column)
    (column : Nat) :
    PrintsNothing ((enclose [] [] inner).print measure width mode indent column) column := by
  have hopening := printsNothing_writeText measure mode column
  have hinner := h (writeText measure mode [] column).column
  have hclosing := printsNothing_writeText measure mode
    (inner.print measure width mode indent (writeText measure mode [] column).column).column
  constructor
  · rw [print_enclose_text, hinner.text]
    rfl
  · rw [print]
    exact Nat.le_trans hopening.le_column (Nat.le_trans hinner.le_column hclosing.le_column)

mutual

theorem printsNothing_of_isEmpty (mode : Mode) (indent column : Nat) : (doc : Doc) →
    doc.isEmpty → PrintsNothing (doc.print measure width mode indent column) column
  | text t, h => by
    unfold isEmpty at h
    obtain rfl := List.isEmpty_iff.mp h
    unfold print
    exact printsNothing_writeText measure mode column
  | concat parts, h => by
    unfold isEmpty at h
    unfold print
    exact printsNothing_of_allEmpty mode indent column parts h
  | softBreak, h | emptyBreak, h | hardBreak, h => by
    simp [isEmpty] at h
  | group inner, h => by
    unfold isEmpty at h
    unfold print
    cases mode with
    | flat => exact printsNothing_of_isEmpty .flat indent column inner h
    | broken =>
      have hinner := printsNothing_of_isEmpty
        (if (decideFit measure width inner column).fits then .flat else .broken) indent column
        inner h
      exact ⟨hinner.text, hinner.le_column⟩
  | nest amount inner, h => by
    unfold isEmpty at h
    unfold print
    exact printsNothing_of_isEmpty mode (indent + amount) column inner h
  | hang amount inner, h => by
    unfold isEmpty at h
    unfold print
    exact printsNothing_of_isEmpty mode (column + amount) column inner h
  | enclose opening closing inner, h => by
    unfold isEmpty at h
    simp only [Bool.and_eq_true, List.isEmpty_iff] at h
    obtain ⟨⟨rfl, rfl⟩, hinner⟩ := h
    exact printsNothing_enclose measure width
      (fun column => printsNothing_of_isEmpty mode indent column inner hinner) column

theorem printsNothing_of_allEmpty (mode : Mode) (indent column : Nat) : (parts : List Doc) →
    allEmpty parts → PrintsNothing (printAll measure width mode indent column parts) column
  | [], _ => by
    unfold printAll
    exact ⟨rfl, Nat.le_refl _⟩
  | part :: later, h => by
    unfold allEmpty at h
    rw [Bool.and_eq_true] at h
    have hpart := printsNothing_of_isEmpty mode indent column part h.1
    have hlater := printsNothing_of_allEmpty mode indent
      (part.print measure width mode indent column).column later h.2
    constructor
    · rw [printAll_cons_text, hpart.text, hlater.text]
      rfl
    · rw [printAll_cons_column]
      exact Nat.le_trans hpart.le_column hlater.le_column

end

end

/-! ## Beyond the width -/

section

variable {measure : Text → Nat} {width : Nat}

theorem print_group_beyond {column : Nat} (hbeyond : width < column) (indent : Nat) (inner : Doc) :
    ((group inner).print measure width .broken indent column).text =
      (inner.print measure width .broken indent column).text := by
  have hfits : (decideFit measure width inner column).fits = false := by
    have : ¬ column + inner.flatWidth measure ≤ width := by omega
    simp [decideFit, this]
  rw [print_group_text, hfits]
  rfl

mutual

/-- Beyond the width, something is printed for every other document. -/
theorem isEmpty_of_text_eq_nil (indent : Nat) {column : Nat} (hbeyond : width < column) :
    (doc : Doc) → (doc.print measure width .broken indent column).text = [] → doc.isEmpty
  | text t, h => by
    unfold print at h
    rw [Printed.text, writeText_strokes] at h
    unfold isEmpty
    exact List.isEmpty_iff.mpr h
  | concat parts, h => by
    unfold print at h
    unfold isEmpty
    exact allEmpty_of_text_eq_nil indent hbeyond parts h
  | softBreak, h | emptyBreak, h | hardBreak, h => by
    unfold print at h
    simp [startLine_eq] at h
  | group inner, h => by
    rw [print_group_beyond hbeyond] at h
    unfold isEmpty
    exact isEmpty_of_text_eq_nil indent hbeyond inner h
  | nest amount inner, h => by
    unfold print at h
    unfold isEmpty
    exact isEmpty_of_text_eq_nil (indent + amount) hbeyond inner h
  | hang amount inner, h => by
    unfold print at h
    unfold isEmpty
    exact isEmpty_of_text_eq_nil (column + amount) hbeyond inner h
  | enclose opening closing inner, h => by
    rw [print_enclose_text, List.append_eq_nil_iff, List.append_eq_nil_iff] at h
    obtain ⟨⟨rfl, hmiddle⟩, rfl⟩ := h
    have hopening := printsNothing_writeText measure .broken column
    have hinner := isEmpty_of_text_eq_nil indent
      (Nat.lt_of_lt_of_le hbeyond hopening.le_column) inner hmiddle
    simp [isEmpty, hinner]

theorem allEmpty_of_text_eq_nil (indent : Nat) {column : Nat} (hbeyond : width < column) :
    (parts : List Doc) → (printAll measure width .broken indent column parts).text = [] →
      allEmpty parts
  | [], _ => by rw [allEmpty]
  | part :: later, h => by
    rw [printAll_cons_text, List.append_eq_nil_iff] at h
    have hpart := isEmpty_of_text_eq_nil indent hbeyond part h.1
    have hnothing := printsNothing_of_isEmpty measure width .broken indent column part hpart
    have hlater := allEmpty_of_text_eq_nil indent
      (Nat.lt_of_lt_of_le hbeyond hnothing.le_column) later h.2
    simp [allEmpty, hpart, hlater]

end

mutual

theorem startsWithBreak_iff (indent : Nat) {column : Nat} (hbeyond : width < column) :
    (doc : Doc) → (∀ t ∈ doc.texts, t.head? ≠ some '\n') →
      (doc.startsWithBreak ↔
        (doc.print measure width .broken indent column).text.head? = some '\n')
  | text t, htexts => by
    unfold texts at htexts
    unfold startsWithBreak print
    rw [Printed.text, writeText_strokes]
    simpa using htexts
  | concat parts, htexts => by
    unfold texts at htexts
    unfold startsWithBreak print
    exact firstIsBreak_iff indent hbeyond parts htexts
  | softBreak, _ | emptyBreak, _ | hardBreak, _ => by
    unfold startsWithBreak print
    simp [startLine_eq]
  | group inner, htexts => by
    unfold texts at htexts
    unfold startsWithBreak
    rw [print_group_beyond hbeyond]
    exact startsWithBreak_iff indent hbeyond inner htexts
  | nest amount inner, htexts => by
    unfold texts at htexts
    unfold startsWithBreak print
    exact startsWithBreak_iff (indent + amount) hbeyond inner htexts
  | hang amount inner, htexts => by
    unfold texts at htexts
    unfold startsWithBreak print
    exact startsWithBreak_iff (column + amount) hbeyond inner htexts
  | enclose opening closing inner, htexts => by
    unfold texts at htexts
    simp only [List.forall_mem_cons] at htexts
    obtain ⟨hopening, hclosing, htexts⟩ := htexts
    unfold startsWithBreak
    rw [print_enclose_text]
    cases opening with
    | cons c opening => simpa using hopening
    | nil =>
      have hnothing := printsNothing_writeText measure .broken column
      have hinner := startsWithBreak_iff indent
        (Nat.lt_of_lt_of_le hbeyond hnothing.le_column) inner htexts
      -- If nothing is printed inside, the closing text comes first.
      cases hmiddle : (inner.print measure width .broken indent
          (writeText measure .broken [] column).column).text with
      | nil => simpa [hmiddle, hclosing] using hinner
      | cons c middle => simpa [hmiddle] using hinner

theorem firstIsBreak_iff (indent : Nat) {column : Nat} (hbeyond : width < column) :
    (parts : List Doc) → (∀ t ∈ allTexts parts, t.head? ≠ some '\n') →
      (firstIsBreak parts ↔
        (printAll measure width .broken indent column parts).text.head? = some '\n')
  | [], _ => by
    unfold firstIsBreak printAll
    simp [Printed.text]
  | part :: later, htexts => by
    unfold allTexts at htexts
    obtain ⟨hpart, hlater⟩ := List.forall_mem_append.mp htexts
    unfold firstIsBreak
    rw [printAll_cons_text]
    split
    · rename_i hempty
      have hnothing := printsNothing_of_isEmpty measure width .broken indent column part hempty
      rw [hnothing.text, List.nil_append]
      exact firstIsBreak_iff indent (Nat.lt_of_lt_of_le hbeyond hnothing.le_column) later hlater
    · rename_i hempty
      have hbreak := startsWithBreak_iff indent hbeyond part hpart
      cases hfirst : (part.print measure width .broken indent column).text with
      | nil => exact absurd (isEmpty_of_text_eq_nil indent hbeyond part hfirst) hempty
      | cons c first => simpa [hfirst] using hbreak

end

end

end Doc

/-- A document is empty exactly if nothing is printed for it wherever it starts. It starts with a break
exactly if a newline is printed first where the line is full, provided that no text begins with one. -/
theorem leading_break_exact (measure : Text → Nat) (doc : Doc) :
    (doc.isEmpty ↔ ∀ width mode indent column,
      (doc.print measure width mode indent column).text = []) ∧
    ((∀ t ∈ doc.texts, t.head? ≠ some '\n') → ∀ width indent column, width < column →
      (doc.startsWithBreak ↔
        (doc.print measure width .broken indent column).text.head? = some '\n')) := by
  constructor
  · constructor
    · intro h width mode indent column
      exact (Doc.printsNothing_of_isEmpty measure width mode indent column doc h).text
    · intro h
      exact Doc.isEmpty_of_text_eq_nil 0 Nat.zero_lt_one doc (h 0 .broken 0 1)
  · intro htexts width indent column hbeyond
    exact Doc.startsWithBreak_iff indent hbeyond doc htexts

theorem leading_break_exact_nested : ∃ doc : Doc, doc = .concat [.text "", .group (.enclose "" ">"
      (.hang 2 (.concat [.nest 1 (.text ""), .emptyBreak, .text "a"])))] ∧
    (∀ t ∈ doc.texts, t.head? ≠ some '\n') ∧ 80 < 81 ∧ doc.startsWithBreak ∧
    (doc.print Text.width 80 .broken 0 81).text.head? = some '\n' := by
  have htexts : ∀ t ∈ (Doc.concat [.text "", .group (.enclose "" ">"
      (.hang 2 (.concat [.nest 1 (.text ""), .emptyBreak, .text "a"])))]).texts,
      t.head? ≠ some '\n' := by decide
  have hbeyond : 80 < 81 := by decide
  have hbreak := (leading_break_exact Text.width _).2 htexts 80 0 81 hbeyond
  exact ⟨_, rfl, htexts, hbeyond, rfl, hbreak.mp rfl⟩

end SearchQuery
