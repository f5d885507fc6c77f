import SearchQuery.Proofs.Placement

/-! # Documents on one line -/

namespace SearchQuery

namespace Doc

/-! ## Printing part by part -/

section

variable (measure : Text → Nat) (width : Nat)

theorem print_enclose_text (mode : Mode) (indent column : Nat) (opening closing : Text)
    (inner : Doc) :
    ((enclose opening closing inner).print measure width mode indent column).text =
      opening ++ (inner.print measure width mode indent
        (writeText measure mode opening column).column).text ++ closing := by
  rw [print]
  simp only [Printed.text, List.flatMap_append, writeText_strokes]

theorem print_concat (mode : Mode) (indent column : Nat) (parts : List Doc) :
    (concat parts).print measure width mode indent column =
      printAll measure width mode indent column parts := by
  rw [print]

theorem printAll_cons_column (mode : Mode) (indent column : Nat) (part : Doc) (later : List Doc) :
    (printAll measure width mode indent column (part :: later)).column =
      (printAll measure width mode indent (part.print measure width mode indent column).column
        later).column := by
  rw [printAll]

theorem printAll_cons_text (mode : Mode) (indent column : Nat) (part : Doc) (later : List Doc) :
    (printAll measure width mode indent column (part :: later)).text =
      (part.print measure width mode indent column).text ++
        (printAll measure width mode indent (part.print measure width mode indent column).column
          later).text := by
  rw [printAll]
  simp only [Printed.text, List.flatMap_append]

theorem print_group_text (indent column : Nat) (inner : Doc) :
    ((group inner).print measure width .broken indent column).text =
      (inner.print measure width
        (if (decideFit measure width inner column).fits then .flat else .broken) indent
        column).text := by
  rw [print]
  rfl

/-! ## New lines of flat documents -/

mutual

/-- All texts that stand around a part of the document. -/
def delimiters : Doc → List Text
  | text _ | softBreak | emptyBreak | hardBreak => []
  | concat parts => allDelimiters parts
  | group inner | nest _ inner | hang _ inner => inner.delimiters
  | enclose opening closing inner => opening :: closing :: inner.delimiters

def allDelimiters : List Doc → List Text
  | [] => []
  | part :: later => part.delimiters ++ allDelimiters later

end

mutual

theorem newline_mem_print_flat (indent column : Nat) : (doc : Doc) →
    (∀ d ∈ doc.delimiters, '\n' ∉ d) →
    ('\n' ∈ (doc.print measure width .flat indent column).text ↔ doc.hasHardBreak)
  | text t, _ => by
    unfold print hasHardBreak
    simp [Printed.text, writeText_strokes]
  | concat parts, h => by
    unfold print hasHardBreak
    unfold delimiters at h
    exact newline_mem_printAll_flat indent column parts h
  | softBreak, _ => by
    unfold print hasHardBreak
    simp [Printed.text, writeText_strokes]
  | emptyBreak, _ => by
    unfold print hasHardBreak
    simp [Printed.text]
  | hardBreak, _ => by
    unfold print hasHardBreak
    simp [startLine_eq]
  | group inner, h => by
    unfold print hasHardBreak
    unfold delimiters at h
    exact newline_mem_print_flat indent column inner h
  | nest amount inner, h => by
    unfold print hasHardBreak
    unfold delimiters at h
    exact newline_mem_print_flat (indent + amount) column inner h
  | hang amount inner, h => by
    unfold print hasHardBreak
    unfold delimiters at h
    exact newline_mem_print_flat (column + amount) column inner h
  | enclose opening closing inner, h => by
    unfold delimiters at h
    simp only [List.forall_mem_cons] at h
    obtain ⟨hopening, hclosing, hinner⟩ := h
    rw [print_enclose_text, hasHardBreak]
    simp [hopening, hclosing, newline_mem_print_flat indent _ inner hinner]

theorem newline_mem_printAll_flat (indent column : Nat) : (parts : List Doc) →
    (∀ d ∈ allDelimiters parts, '\n' ∉ d) →
    ('\n' ∈ (printAll measure width .flat indent column parts).text ↔ anyHardBreak parts)
  | [], _ => by
    unfold printAll anyHardBreak
    simp [Printed.text]
  | part :: later, h => by
    unfold allDelimiters at h
    obtain ⟨hpart, hlater⟩ := List.forall_mem_append.mp h
    rw [printAll_cons_text, anyHardBreak]
    simp [newline_mem_print_flat indent column part hpart,
      newline_mem_printAll_flat indent _ later hlater]

end

end

theorem Placed.newline_not_mem_delimiters {before after : Room} {doc : Doc}
    (h : Placed before doc after) : ∀ d ∈ doc.delimiters, '\n' ∉ d := by
  induction h with
  | text | softBreak | emptyBreak | nil => simp [delimiters, allDelimiters]
  | cons _ _ ih ih' =>
    unfold delimiters at ih' ⊢
    exact List.forall_mem_append.mpr ⟨ih, ih'⟩
  | group _ ih | nest _ _ ih | hang _ _ ih =>
    unfold delimiters
    exact ih
  | enclose hopening hclosing _ _ ih =>
    unfold delimiters
    exact List.forall_mem_cons.mpr ⟨hopening, List.forall_mem_cons.mpr ⟨hclosing, ih⟩⟩

/-! ## The text of one line -/

mutual

/-- The document on one line, with a space for a soft break. -/
def flatText : Doc → Text
  | text t => t
  | concat parts => flatTexts parts
  | softBreak => " "
  | emptyBreak => []
  | hardBreak => "\n"
  | group inner | nest _ inner | hang _ inner => inner.flatText
  | enclose opening closing inner => opening ++ (inner.flatText ++ closing)

def flatTexts : List Doc → Text
  | [] => []
  | part :: later => part.flatText ++ flatTexts later

end

/-- The printer has written this text and stands at this column. -/
structure Prints (printed : Printed) (t : Text) (column : Nat) : Prop where
  text : printed.text = t
  column : printed.column = column

section

variable {measure : Text → Nat} {width : Nat} {mode : Mode} {indent column column₁ column₂ : Nat}

theorem prints_writeText {t : Text} (h : '\n' ∉ t) :
    Prints (writeText measure mode t column) t (column + measure t) :=
  ⟨writeText_strokes measure mode t column, by simp [writeText, h]⟩

theorem Prints.cons {part : Doc} {later : List Doc} {s u : Text}
    (h : Prints (part.print measure width mode indent column) s column₁)
    (hlater : Prints (printAll measure width mode indent column₁ later) u column₂) :
    Prints (printAll measure width mode indent column (part :: later)) (s ++ u) column₂ := by
  obtain ⟨rfl, rfl⟩ := h
  constructor
  · rw [printAll_cons_text, hlater.text]
  · rw [printAll_cons_column, hlater.column]

theorem Prints.enclose {opening closing s : Text} {inner : Doc} (hopening : '\n' ∉ opening)
    (hclosing : '\n' ∉ closing)
    (h : Prints (inner.print measure width mode indent (column + measure opening)) s column₁) :
    Prints ((enclose opening closing inner).print measure width mode indent column)
      (opening ++ (s ++ closing)) (column₁ + measure closing) := by
  obtain ⟨rfl, rfl⟩ := h
  have hfirst : (writeText measure mode opening column).column = column + measure opening :=
    (prints_writeText hopening).column
  constructor
  · rw [print_enclose_text, hfirst, List.append_assoc]
  · rw [print]
    simp only [hfirst]
    exact (prints_writeText hclosing).column

theorem Prints.group {inner : Doc} {t : Text}
    (h : Prints (inner.print measure width
      (if (decideFit measure width inner column).fits then .flat else .broken) indent column) t
      column₁) :
    Prints ((group inner).print measure width .broken indent column) t column₁ := by
  unfold print
  exact ⟨h.text, h.column⟩

end

section

variable {measure : Text → Nat} (width : Nat)

mutual

theorem prints_flat (hspace : measure " " = 1) (indent column : Nat) : (doc : Doc) →
    doc.hasHardBreak = false → (∀ d ∈ doc.delimiters, '\n' ∉ d) →
    Prints (doc.print measure width .flat indent column) doc.flatText
      (column + doc.flatWidth measure)
  | text t, hhard, _ => by
    unfold hasHardBreak at hhard
    unfold print flatText flatWidth
    exact prints_writeText (by simpa using hhard)
  | concat parts, hhard, hplain => by
    unfold hasHardBreak at hhard
    unfold delimiters at hplain
    unfold print flatText flatWidth
    exact prints_flats hspace indent column parts hhard hplain
  | softBreak, _, _ => by
    unfold print flatText flatWidth
    rw [← hspace]
    exact prints_writeText (by simp)
  | emptyBreak, _, _ => by
    unfold print flatText flatWidth
    exact ⟨rfl, rfl⟩
  | hardBreak, hhard, _ => by simp [hasHardBreak] at hhard
  | group inner, hhard, hplain => by
    unfold hasHardBreak at hhard
    unfold delimiters at hplain
    unfold print flatText flatWidth
    exact prints_flat hspace indent column inner hhard hplain
  | nest amount inner, hhard, hplain => by
    unfold hasHardBreak at hhard
    unfold delimiters at hplain
    unfold print flatText flatWidth
    exact prints_flat hspace (indent + amount) column inner hhard hplain
  | hang amount inner, hhard, hplain => by
    unfold hasHardBreak at hhard
    unfold delimiters at hplain
    unfold print flatText flatWidth
    exact prints_flat hspace (column + amount) column inner hhard hplain
  | enclose opening closing inner, hhard, hplain => by
    unfold hasHardBreak at hhard
    unfold delimiters at hplain
    simp only [List.forall_mem_cons] at hplain
    obtain ⟨hopening, hclosing, hplain⟩ := hplain
    unfold flatText flatWidth
    have hinner := prints_flat hspace indent (column + measure opening) inner hhard hplain
    simpa only [Nat.add_assoc] using hinner.enclose hopening hclosing

theorem prints_flats (hspace : measure " " = 1) (indent column : Nat) : (parts : List Doc) →
    anyHardBreak parts = false → (∀ d ∈ allDelimiters parts, '\n' ∉ d) →
    Prints (printAll measure width .flat indent column parts) (flatTexts parts)
      (column + flatWidths measure parts)
  | [], _, _ => by
    unfold printAll flatTexts flatWidths
    exact ⟨rfl, rfl⟩
  | part :: later, hhard, hplain => by
    unfold anyHardBreak at hhard
    rw [Bool.or_eq_false_iff] at hhard
    unfold allDelimiters at hplain
    obtain ⟨hpart, hlater⟩ := List.forall_mem_append.mp hplain
    unfold flatTexts flatWidths
    rw [← Nat.add_assoc]
    exact (prints_flat hspace indent column part hhard.1 hpart).cons
      (prints_flats hspace indent _ later hhard.2 hlater)

end

end

theorem newline_not_mem_flatText {doc : Doc} (hhard : doc.hasHardBreak = false)
    (hplain : ∀ d ∈ doc.delimiters, '\n' ∉ d) : '\n' ∉ doc.flatText := by
  have hflat : Prints (doc.print List.length 0 .flat 0 0) doc.flatText
      (0 + doc.flatWidth List.length) := prints_flat 0 rfl 0 0 doc hhard hplain
  rw [← hflat.text, newline_mem_print_flat List.length 0 0 0 doc hplain, hhard]
  simp

/-! ## Documents that fit -/

mutual

/-- All places where a line can end are in groups. -/
def isGrouped : Doc → Bool
  | text _ | group _ => true
  | concat parts => allGrouped parts
  | softBreak | emptyBreak | hardBreak => false
  | nest _ inner | hang _ inner | enclose _ _ inner => inner.isGrouped

def allGrouped : List Doc → Bool
  | [] => true
  | part :: later => part.isGrouped && allGrouped later

end

section

variable {measure : Text → Nat} {width : Nat}

theorem fits_iff {inner : Doc} {column : Nat} (hhard : inner.hasHardBreak = false) :
    (decideFit measure width inner column).fits ↔ column + inner.flatWidth measure ≤ width := by
  simp [decideFit, hhard]

theorem prints_group {inner : Doc} {column : Nat} (hspace : measure " " = 1)
    (hhard : inner.hasHardBreak = false) (hplain : ∀ d ∈ inner.delimiters, '\n' ∉ d)
    (hle : column + inner.flatWidth measure ≤ width) (indent : Nat) :
    Prints ((group inner).print measure width .broken indent column) inner.flatText
      (column + inner.flatWidth measure) := by
  apply Prints.group
  rw [if_pos ((fits_iff hhard).mpr hle)]
  exact prints_flat width hspace indent column inner hhard hplain

mutual

theorem prints_of_fits (hspace : measure " " = 1) (indent column : Nat) : (doc : Doc) →
    doc.isGrouped → doc.hasHardBreak = false → (∀ d ∈ doc.delimiters, '\n' ∉ d) →
    column + doc.flatWidth measure ≤ width →
    Prints (doc.print measure width .broken indent column) doc.flatText
      (column + doc.flatWidth measure)
  | text t, _, hhard, _, _ => by
    unfold hasHardBreak at hhard
    unfold print flatText flatWidth
    exact prints_writeText (by simpa using hhard)
  | concat parts, hgrouped, hhard, hplain, hfits => by
    unfold isGrouped at hgrouped
    unfold hasHardBreak at hhard
    unfold delimiters at hplain
    unfold flatWidth at hfits
    unfold print flatText flatWidth
    exact prints_all_of_fits hspace indent column parts hgrouped hhard hplain hfits
  | softBreak, hgrouped, _, _, _
  | emptyBreak, hgrouped, _, _, _
  | hardBreak, hgrouped, _, _, _ => by
    simp [isGrouped] at hgrouped
  | group inner, _, hhard, hplain, hfits => by
    unfold hasHardBreak at hhard
    unfold delimiters at hplain
    unfold flatWidth at hfits
    unfold flatText flatWidth
    exact prints_group hspace hhard hplain hfits indent
  | nest amount inner, hgrouped, hhard, hplain, hfits => by
    unfold isGrouped at hgrouped
    unfold hasHardBreak at hhard
    unfold delimiters at hplain
    unfold flatWidth at hfits
    unfold print flatText flatWidth
    exact prints_of_fits hspace (indent + amount) column inner hgrouped hhard hplain hfits
  | hang amount inner, hgrouped, hhard, hplain, hfits => by
    unfold isGrouped at hgrouped
    unfold hasHardBreak at hhard
    unfold delimiters at hplain
    unfold flatWidth at hfits
    unfold print flatText flatWidth
    exact prints_of_fits hspace (column + amount) column inner hgrouped hhard hplain hfits
  | enclose opening closing inner, hgrouped, hhard, hplain, hfits => by
    unfold isGrouped at hgrouped
    unfold hasHardBreak at hhard
    unfold delimiters at hplain
    simp only [List.forall_mem_cons] at hplain
    obtain ⟨hopening, hclosing, hplain⟩ := hplain
    unfold flatWidth at hfits
    unfold flatText flatWidth
    have hinner := prints_of_fits hspace indent (column + measure opening) inner hgrouped hhard
      hplain (by omega)
    simpa only [Nat.add_assoc] using hinner.enclose hopening hclosing

theorem prints_all_of_fits (hspace : measure " " = 1) (indent column : Nat) : (parts : List Doc) →
    allGrouped parts → anyHardBreak parts = false → (∀ d ∈ allDelimiters parts, '\n' ∉ d) →
    column + flatWidths measure parts ≤ width →
    Prints (printAll measure width .broken indent column parts) (flatTexts parts)
      (column + flatWidths measure parts)
  | [], _, _, _, _ => by
    unfold printAll flatTexts flatWidths
    exact ⟨rfl, rfl⟩
  | part :: later, hgrouped, hhard, hplain, hfits => by
    unfold allGrouped at hgrouped
    rw [Bool.and_eq_true] at hgrouped
    unfold anyHardBreak at hhard
    rw [Bool.or_eq_false_iff] at hhard
    unfold allDelimiters at hplain
    obtain ⟨hpart, hlater⟩ := List.forall_mem_append.mp hplain
    unfold flatWidths at hfits
    unfold flatTexts flatWidths
    rw [← Nat.add_assoc]
    exact (prints_of_fits hspace indent column part hgrouped.1 hhard.1 hpart (by omega)).cons
      (prints_all_of_fits hspace indent _ later hgrouped.2 hhard.2 hlater (by omega))

end

end

/-! ## Documents that do not fit -/

mutual

/-- There is a place in the document where a line can end. -/
def hasBreak : Doc → Bool
  | text _ => false
  | concat parts => anyBreak parts
  | softBreak | emptyBreak | hardBreak => true
  | group inner | nest _ inner | hang _ inner | enclose _ _ inner => inner.hasBreak

def anyBreak : List Doc → Bool
  | [] => false
  | part :: later => part.hasBreak || anyBreak later

end

/-- A document that was printed without a new line, from a column to a column. One with a break in it
fits and is the last on its line, and where only a break can stand it is nothing. -/
structure Unbroken (measure : Text → Nat) (width : Nat) (before : Room) (doc : Doc) (after : Room)
    (column column' : Nat) : Prop where
  column_eq : column' = column + doc.flatWidth measure
  fits : doc.hasBreak → column' ≤ width ∧ after = .taken
  nothing : before = .taken → doc.flatWidth measure = 0 ∧ doc.hasBreak = false ∧ after = .taken

section

variable {measure : Text → Nat} {width : Nat} {before middle after : Room} {first : Doc}
  {later : List Doc}

theorem Unbroken.cons {column column₁ column₂ : Nat}
    (h : Unbroken measure width before first middle column column₁)
    (hlater : Unbroken measure width middle (concat later) after column₁ column₂) :
    Unbroken measure width before (concat (first :: later)) after column column₂ := by
  obtain ⟨hcolumn, hfits, hnothing⟩ := h
  obtain ⟨hcolumn', hfits', hnothing'⟩ := hlater
  unfold flatWidth at hcolumn' hnothing'
  unfold hasBreak at hfits' hnothing'
  refine ⟨?_, ?_, ?_⟩
  · unfold flatWidth flatWidths
    omega
  · intro hbreak
    unfold hasBreak anyBreak at hbreak
    rcases Bool.or_eq_true_iff.mp hbreak with hbreak | hbreak
    · -- The line has ended with the first document, so the others add nothing to it.
      obtain ⟨hle, hmiddle⟩ := hfits hbreak
      obtain ⟨hwidth, -, hafter⟩ := hnothing' hmiddle
      exact ⟨by omega, hafter⟩
    · exact hfits' hbreak
  · intro hbefore
    obtain ⟨hwidth, hbreak, hmiddle⟩ := hnothing hbefore
    obtain ⟨hwidth', hbreak', hafter⟩ := hnothing' hmiddle
    refine ⟨?_, ?_, hafter⟩
    · unfold flatWidth flatWidths
      omega
    · unfold hasBreak anyBreak
      simp [hbreak, hbreak']

theorem unbroken_group {inner : Doc} {indent column : Nat} (hspace : measure " " = 1)
    (hhard : inner.hasHardBreak = false) (hplain : ∀ d ∈ inner.delimiters, '\n' ∉ d)
    (hfits : (decideFit measure width inner column).fits) :
    Unbroken measure width .free (group inner) .taken column
      ((group inner).print measure width .broken indent column).column := by
  have hle := (fits_iff hhard).mp hfits
  rw [(prints_group hspace hhard hplain hle indent).column]
  refine ⟨?_, fun _ => ⟨hle, rfl⟩, nofun⟩
  rw [flatWidth]

theorem Unbroken.group {inner : Doc} {column column' : Nat}
    (h : Unbroken measure width .free inner after column column') :
    Unbroken measure width .free (group inner) .taken column column' := by
  refine ⟨?_, ?_, nofun⟩
  · unfold flatWidth
    exact h.column_eq
  · unfold hasBreak
    exact fun hbreak => ⟨(h.fits hbreak).1, rfl⟩

theorem Unbroken.of_eq {doc doc' : Doc} {column column' : Nat}
    (h : Unbroken measure width .free doc after column column')
    (hwidth : doc'.flatWidth measure = doc.flatWidth measure)
    (hbreak : doc'.hasBreak = doc.hasBreak) :
    Unbroken measure width .free doc' after column column' := by
  refine ⟨?_, ?_, nofun⟩
  · rw [hwidth]
    exact h.column_eq
  · rw [hbreak]
    exact h.fits

theorem Unbroken.enclose {opening closing : Text} {inner : Doc} {column column' : Nat}
    (h : Unbroken measure width .free inner .free (column + measure opening) column')
    (after : Room) :
    Unbroken measure width .free (enclose opening closing inner) after column
      (column' + measure closing) := by
  refine ⟨?_, ?_, nofun⟩
  · unfold flatWidth
    have := h.column_eq
    omega
  · -- A break inside would end the line before the closing delimiter.
    unfold hasBreak
    intro hbreak
    exact absurd (h.fits hbreak).2 (by simp)

/-- Printed broken, a document has a new line, or there was no reason to break it. -/
theorem Placed.newline_or_unbroken {doc : Doc} (h : Placed before doc after)
    (hspace : measure " " = 1) (hhard : doc.hasHardBreak = false) (indent column : Nat) :
    '\n' ∈ (doc.print measure width .broken indent column).text ∨
      Unbroken measure width before doc after column
        (doc.print measure width .broken indent column).column := by
  induction h generalizing indent column with
  | text t after =>
    unfold hasHardBreak at hhard
    refine .inr ⟨?_, by simp [hasBreak], nofun⟩
    unfold print flatWidth
    exact (prints_writeText (by simpa using hhard)).column
  | softBreak before after | emptyBreak before after =>
    unfold print
    exact .inl (by simp [startLine_eq])
  | nil room =>
    unfold print printAll
    refine .inr ⟨?_, by simp [hasBreak, anyBreak], fun hroom => ?_⟩
    · unfold flatWidth flatWidths
      rfl
    · exact ⟨by simp [flatWidth, flatWidths], by simp [hasBreak, anyBreak], hroom⟩
  | @cons _ _ _ first later _ _ ih ih' =>
    unfold hasHardBreak anyHardBreak at hhard
    rw [Bool.or_eq_false_iff] at hhard
    have hfirst := ih hhard.1 indent column
    have hlater := ih' (by unfold hasHardBreak; exact hhard.2) indent
      (first.print measure width .broken indent column).column
    rw [print_concat] at hlater ⊢
    rw [printAll_cons_text, List.mem_append, printAll_cons_column]
    rcases hfirst with hnewline | hfirst
    · exact .inl (.inl hnewline)
    rcases hlater with hnewline | hlater
    · exact .inl (.inr hnewline)
    · exact .inr (hfirst.cons hlater)
  | @group _ inner hinner ih =>
    unfold hasHardBreak at hhard
    by_cases hfits : (decideFit measure width inner column).fits
    · exact .inr (unbroken_group hspace hhard hinner.newline_not_mem_delimiters hfits)
    · -- The breaks of the group itself are new lines, if it has any.
      have hbroken := ih hhard indent column
      unfold print
      simp only [if_neg hfits]
      exact hbroken.imp_right Unbroken.group
  | nest amount _ ih =>
    unfold hasHardBreak at hhard
    rw [print]
    refine (ih hhard (indent + amount) column).imp_right fun h => h.of_eq ?_ ?_
    · rw [flatWidth]
    · rw [hasBreak]
  | hang amount _ ih =>
    unfold hasHardBreak at hhard
    rw [print]
    refine (ih hhard (column + amount) column).imp_right fun h => h.of_eq ?_ ?_
    · rw [flatWidth]
    · rw [hasBreak]
  | @enclose opening closing inner hopening hclosing _ after ih =>
    unfold hasHardBreak at hhard
    have hfirst : (writeText measure .broken opening column).column = column + measure opening :=
      (prints_writeText hopening).column
    rcases ih hhard indent (column + measure opening) with hnewline | hinner
    · rw [print_enclose_text, hfirst]
      simp [hnewline]
    · rw [(Prints.enclose hopening hclosing ⟨rfl, rfl⟩).column]
      exact .inr (hinner.enclose after)

/-! ## Pages of one line -/

theorem Placed.printPage_of_le {doc : Doc} (h : Placed before doc after) (hspace : measure " " = 1)
    (hgrouped : doc.isGrouped) (hhard : doc.hasHardBreak = false)
    (hle : doc.flatWidth measure ≤ width) : (doc.printPage measure width).text = doc.flatText :=
  (prints_of_fits hspace 0 0 doc hgrouped hhard h.newline_not_mem_delimiters (by omega)).text

theorem Placed.newline_of_lt {doc : Doc} (h : Placed before doc after) (hspace : measure " " = 1)
    (hhard : doc.hasHardBreak = false) (hbreak : doc.hasBreak)
    (hlt : width < doc.flatWidth measure) : '\n' ∈ (doc.printPage measure width).text := by
  rcases h.newline_or_unbroken hspace hhard 0 0 with hnewline | hunbroken
  · exact hnewline
  · have hle := (hunbroken.fits hbreak).1
    have hcolumn := hunbroken.column_eq
    omega

end

end Doc

end SearchQuery
