import SearchQuery.Proofs.Flat
import SearchQuery.Proofs.RoundTrip

/-! # Wider pages

Where a group starts, the column is the same on the narrow page and on the wide one.
-/

namespace SearchQuery

namespace Doc

/-! ## Two runs -/

/-- The columns of the two runs are the same wherever a text can follow. -/
def columnsAgree : Room → Nat → Nat → Prop
  | .free, column, column' => column = column'
  | .taken, _, _ => True

theorem columnsAgree_rfl (room : Room) (column : Nat) : columnsAgree room column column := by
  cases room with
  | free => rfl
  | taken => trivial

variable {measure : Text → Nat} {width width' : Nat}

theorem fits_of_le {inner : Doc} {column : Nat} (hle : width ≤ width')
    (h : (decideFit measure width inner column).fits) :
    (decideFit measure width' inner column).fits := by
  unfold decideFit at *
  simp only [Bool.and_eq_true, decide_eq_true_eq] at h ⊢
  exact ⟨by omega, h.2⟩

/-- What the two runs write for a document, and where they leave the line. -/
structure Compared (first second : Printed) (after : Room) : Prop where
  newlines_le : second.text.count '\n' ≤ first.text.count '\n'
  columns : columnsAgree after first.column second.column

theorem compared_rfl (printed : Printed) (after : Room) : Compared printed printed after :=
  ⟨Nat.le_refl _, columnsAgree_rfl after _⟩

theorem compared_group {after : Room} {inner : Doc} {indent column : Nat} (hle : width ≤ width')
    (hplain : ∀ d ∈ inner.delimiters, '\n' ∉ d)
    (hbroken : Compared (inner.print measure width .broken indent column)
      (inner.print measure width' .broken indent column) after) :
    Compared ((group inner).print measure width .broken indent column)
      ((group inner).print measure width' .broken indent column) .taken := by
  refine ⟨?_, trivial⟩
  rw [print_group_text, print_group_text]
  by_cases hwide : (decideFit measure width' inner column).fits
  · have hhard : inner.hasHardBreak = false := by
      simp only [decideFit, Bool.and_eq_true, Bool.not_eq_true'] at hwide
      exact hwide.2
    have hflat := newline_mem_print_flat measure width' indent column inner hplain
    rw [hhard] at hflat
    rw [if_pos hwide, List.count_eq_zero_of_not_mem (by simp [hflat])]
    exact Nat.zero_le _
  · have hnarrow : ¬ (decideFit measure width inner column).fits :=
      fun h => hwide (fits_of_le hle h)
    rw [if_neg hwide, if_neg hnarrow]
    exact hbroken.newlines_le

theorem compared_enclose {opening closing : Text} {inner : Doc} {indent column : Nat}
    (hinner : Compared
      (inner.print measure width .broken indent (writeText measure .broken opening column).column)
      (inner.print measure width' .broken indent (writeText measure .broken opening column).column)
      .free) (after : Room) :
    Compared ((enclose opening closing inner).print measure width .broken indent column)
      ((enclose opening closing inner).print measure width' .broken indent column) after := by
  constructor
  · rw [print_enclose_text, print_enclose_text]
    simp only [List.count_append]
    have := hinner.newlines_le
    omega
  · have hcolumn := hinner.columns
    unfold columnsAgree at hcolumn
    rw [print, print, hcolumn]
    exact columnsAgree_rfl after _

/-- Broken on both pages, a document has no more new lines on the wide one, and the columns agree
again where they have to. -/
theorem Placed.compared {before after : Room} {doc : Doc} (h : Placed before doc after)
    (hle : width ≤ width') (indent : Nat) {column column' : Nat}
    (hcolumns : columnsAgree before column column') :
    Compared (doc.print measure width .broken indent column)
      (doc.print measure width' .broken indent column') after := by
  induction h generalizing indent column column' with
  | text t after =>
    obtain rfl : column = column' := hcolumns
    unfold print
    exact compared_rfl _ after
  | softBreak before after | emptyBreak before after =>
    unfold print
    exact compared_rfl _ after
  | nil room =>
    unfold print printAll
    exact ⟨Nat.le_refl _, hcolumns⟩
  | cons _ _ ih ih' =>
    have hfirst := ih indent hcolumns
    have hlater := ih' indent hfirst.columns
    unfold print at hlater ⊢
    constructor
    · rw [printAll_cons_text, printAll_cons_text, List.count_append, List.count_append]
      exact Nat.add_le_add hfirst.newlines_le hlater.newlines_le
    · unfold printAll
      exact hlater.columns
  | group hinner ih =>
    obtain rfl : column = column' := hcolumns
    exact compared_group hle hinner.newline_not_mem_delimiters (ih indent rfl)
  | nest amount _ ih =>
    unfold print
    exact ih (indent + amount) hcolumns
  | hang amount _ ih =>
    obtain rfl : column = column' := hcolumns
    unfold print
    exact ih (column + amount) rfl
  | @enclose opening closing inner _ _ _ after ih =>
    obtain rfl : column = column' := hcolumns
    have hinner := ih indent (columnsAgree_rfl .free (writeText measure .broken opening column).column)
    exact compared_enclose hinner after

end Doc

/-- A wider page never has more lines. -/
theorem format_newlines_antitone {t : Text} {q : Query} (h : parse t = .ok q) (style : Style)
    {width width' : Nat} (hle : width ≤ width') : ∃ f f', format width style t = .ok f ∧
      format width' style t = .ok f' ∧ f'.count '\n' ≤ f.count '\n' := by
  refine ⟨_, _, format_of_parse h width style, format_of_parse h width' style, ?_⟩
  exact ((placed_of_parse h style).compared hle 0 rfl).newlines_le

theorem format_newlines_antitone_hanging : ∃ q, parse "x:(a OR b) AND NOT c" = .ok q ∧ 9 ≤ 12 ∧
    ∃ f f', format 9 .compact "x:(a OR b) AND NOT c" = .ok f ∧
      format 12 .compact "x:(a OR b) AND NOT c" = .ok f' ∧ f'.count '\n' ≤ f.count '\n' := by
  have h : parse "x:(a OR b) AND NOT c" = .ok (.sequence [.field "x" (.parenthesized (.sequence
      [.term "a", .operator .or, .term "b"])), .operator .and, .marked .not (.term "c")]) := by decide +kernel
  exact ⟨_, h, by decide, format_newlines_antitone h .compact (by decide)⟩

end SearchQuery
