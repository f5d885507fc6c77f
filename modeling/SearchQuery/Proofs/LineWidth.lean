import Mathlib.Algebra.GroupWithZero.Nat
import SearchQuery.Proofs.Placement

/-! # Widths of lines

The printer is followed stroke by stroke. After a flat group no stroke but a new line is accepted.
-/

namespace SearchQuery

/-! ## Lines -/

/-- A part of a line, as it was written. -/
structure Piece where
  mode : Mode
  text : Text
deriving DecidableEq, Repr

abbrev Line := List Piece

def lineText (line : Line) : Text := line.flatMap Piece.text

/-- Each piece of a line is measured for itself. -/
def lineWidth (measure : Text → Nat) (line : Line) : Nat := (line.map fun p => measure p.text).sum

def HasFlat (line : Line) : Prop := ∃ p ∈ line, p.mode = .flat

/-- Two lists of lines, the first line of the second going on with the last line of the first. -/
def glue {α : Type} : List (List α) → List (List α) → List (List α)
  | [], later => later
  | [last], [] => [last]
  | [last], line :: later => (last ++ line) :: later
  | line :: next :: lines, later => line :: glue (next :: lines) later

/-- The lines of one stroke. The spaces of an indentation are pieces of their own. -/
def Stroke.lines : Stroke → List Line
  | write mode t => (t.splitOn '\n').map fun s => [⟨mode, s⟩]
  | newline indent => [[], List.replicate indent ⟨.broken, " "⟩]
  | decide _ => [[]]

def linesOf (strokes : List Stroke) : List Line :=
  strokes.foldr (fun stroke later => glue stroke.lines later) [[]]

def Printed.lines (printed : Printed) : List Line := linesOf printed.strokes

section

variable {α : Type}

theorem glue_append (lines : List (List α)) (last line : List α) (later : List (List α)) :
    glue (lines ++ [last]) (line :: later) = lines ++ (last ++ line) :: later := by
  induction lines with
  | nil => rfl
  | cons first lines ih =>
    obtain ⟨next, rest, hrest⟩ : ∃ next rest, lines ++ [last] = next :: rest :=
      List.exists_cons_of_ne_nil (by simp)
    rw [List.cons_append, hrest, glue, ← hrest, ih, List.cons_append]

theorem map_glue {β : Type} {f : List α → List β} (hf : ∀ a b, f (a ++ b) = f a ++ f b)
    (lines later : List (List α)) :
    (glue lines later).map f = glue (lines.map f) (later.map f) := by
  fun_induction glue lines later with
  | case1 => rfl
  | case2 => rfl
  | case3 last line later => simp [glue, hf]
  | case4 line next lines later ih => simpa [glue] using ih

theorem splitOn_append [BEq α] (x : α) (s t : List α) :
    (s ++ t).splitOn x = glue (s.splitOn x) (t.splitOn x) := by
  obtain ⟨line, later, hlater⟩ := List.exists_cons_of_ne_nil (List.splitOn_ne_nil x t)
  rw [hlater]
  induction s with
  | nil => exact hlater
  | cons c s ih =>
    obtain ⟨next, lines, hlines⟩ := List.exists_cons_of_ne_nil (List.splitOn_ne_nil x s)
    rw [List.cons_append, List.splitOn_cons_eq_if_modifyHead, List.splitOn_cons_eq_if_modifyHead,
      ih, hlines]
    split
    · rfl
    · cases lines <;> rfl

end

theorem hasFlat_append {line line' : Line} :
    HasFlat (line ++ line') ↔ HasFlat line ∨ HasFlat line' := by
  simp only [HasFlat, List.mem_append, or_and_right, exists_or]

theorem not_hasFlat {line : Line} (h : ∀ p ∈ line, p.mode = .broken) : ¬ HasFlat line := by
  rintro ⟨p, hp, hflat⟩
  rw [h p hp] at hflat
  simp at hflat

theorem lineWidth_append (measure : Text → Nat) (line line' : Line) :
    lineWidth measure (line ++ line') = lineWidth measure line + lineWidth measure line' := by
  simp [lineWidth]

theorem lineWidth_singleton (measure : Text → Nat) (p : Piece) :
    lineWidth measure [p] = measure p.text := by
  simp [lineWidth]

theorem lineText_append (line line' : Line) :
    lineText (line ++ line') = lineText line ++ lineText line' := List.flatMap_append

theorem Stroke.lines_text (stroke : Stroke) :
    stroke.lines.map lineText = stroke.text.splitOn '\n' := by
  cases stroke with
  | write mode t => simp [lines, text, lineText, Function.comp_def]
  | newline indent =>
    have hspaces : (List.replicate indent ' ').splitOn '\n' = [List.replicate indent ' '] :=
      List.splitOn_eq_singleton (by simp)
    simp [lines, text, lineText, List.splitOn_cons_eq_if_modifyHead, hspaces,
      List.flatMap_replicate]
  | decide d => rfl

theorem lines_text (printed : Printed) :
    printed.lines.map lineText = printed.text.splitOn '\n' := by
  rw [Printed.lines, Printed.text]
  induction printed.strokes with
  | nil => rfl
  | cons stroke strokes ih =>
    rw [List.flatMap_cons, splitOn_append, ← Stroke.lines_text, ← ih, ← map_glue lineText_append]
    rfl

theorem exists_newline {t : Text} (h : '\n' ∈ t) : ∃ rest,
    t = t.takeWhile (· ≠ '\n') ++ '\n' :: rest ∧ '\n' ∉ t.takeWhile (· ≠ '\n') := by
  induction t with
  | nil => simp at h
  | cons c t ih =>
    by_cases hc : c = '\n'
    · exact ⟨t, by simp [hc], by simp [hc]⟩
    · obtain ⟨rest, hrest, hnot⟩ := ih (by simpa [Ne.symm hc] using h)
      rw [List.takeWhile_cons_of_pos (by simpa using hc)]
      refine ⟨rest, by rw [List.cons_append, ← hrest], ?_⟩
      exact List.not_mem_cons_of_ne_of_not_mem (Ne.symm hc) hnot

theorem exists_lastLine {t : Text} (h : '\n' ∈ t) :
    ∃ before : Text, t.splitOn '\n' = before.splitOn '\n' ++ [t.lastLine] := by
  obtain ⟨rest, hrest, hnot⟩ := exists_newline (List.mem_reverse.mpr h)
  have hlast : '\n' ∉ t.lastLine := fun hmem => hnot (List.mem_reverse.mp hmem)
  have ht : t = rest.reverse ++ '\n' :: t.lastLine := by
    have hreverse := congrArg List.reverse hrest
    rw [List.reverse_reverse] at hreverse
    simpa [Text.lastLine] using hreverse
  refine ⟨rest.reverse, ?_⟩
  calc t.splitOn '\n' = (rest.reverse ++ '\n' :: t.lastLine).splitOn '\n' := congrArg _ ht
    _ = rest.reverse.splitOn '\n' ++ [t.lastLine] := by
      rw [List.splitOn_append_cons_self, List.splitOn_eq_singleton hlast]

/-! ## The line that is being written -/

/-- The column on the current line, and whether a flat group stands on it. Such a line is full. -/
structure LineState where
  column : Nat
  full : Bool
deriving DecidableEq, Repr

namespace LineState

section

variable (measure : Text → Nat) (width : Nat)

/-- What a stroke makes of the line. After a group that fits come its texts, within the width, and
then the line ends. -/
def next (state : LineState) : Stroke → Option LineState
  | .write .broken t =>
    if state.full then none
    else some ⟨(Doc.writeText measure .broken t state.column).column, false⟩
  | .write .flat t =>
    if state.full ∧ '\n' ∉ t ∧ state.column + measure t ≤ width then
      some ⟨state.column + measure t, true⟩
    else none
  | .newline indent => some ⟨indent, false⟩
  | .decide d => if state.full then none else some ⟨state.column, d.fits⟩

def run (state : LineState) (strokes : List Stroke) : Option LineState :=
  strokes.foldlM (next measure width) state

end

variable {measure : Text → Nat} {width : Nat}

theorem run_cons {state state' : LineState} {stroke : Stroke} {strokes : List Stroke} :
    run measure width state (stroke :: strokes) = some state' ↔
      ∃ middle, next measure width state stroke = some middle ∧
        run measure width middle strokes = some state' := by
  rw [run, List.foldlM_cons, Option.bind_eq_bind, Option.bind_eq_some_iff]
  rfl

theorem run_append {state state' : LineState} {strokes later : List Stroke} :
    run measure width state (strokes ++ later) = some state' ↔
      ∃ middle, run measure width state strokes = some middle ∧
        run measure width middle later = some state' := by
  rw [run, List.foldlM_append, Option.bind_eq_bind, Option.bind_eq_some_iff]
  rfl

theorem ends_of_run {column : Nat} {strokes : List Stroke} {state' : LineState}
    (h : run measure width ⟨column, true⟩ strokes = some state') : ∃ flat rest,
      strokes = flat ++ rest ∧ (∀ stroke ∈ flat, ∃ t, stroke = .write .flat t) ∧
      (rest = [] ∨ ∃ indent later, rest = .newline indent :: later) := by
  induction strokes generalizing column with
  | nil => exact ⟨[], [], rfl, by simp, .inl rfl⟩
  | cons stroke strokes ih =>
    obtain ⟨middle, hnext, hrun⟩ := run_cons.mp h
    cases stroke with
    | write mode t =>
      cases mode with
      | broken => simp [next] at hnext
      | flat =>
        simp only [next, Option.ite_none_right_eq_some, Option.some.injEq] at hnext
        obtain ⟨-, rfl⟩ := hnext
        obtain ⟨flat, rest, rfl, hflat, hrest⟩ := ih hrun
        refine ⟨.write .flat t :: flat, rest, rfl, ?_, hrest⟩
        simpa using hflat
    | newline indent => exact ⟨[], _, rfl, by simp, .inr ⟨indent, strokes, rfl⟩⟩
    | decide d => simp [next] at hnext

/-- The lines from this state on: the first of them goes on with the current one. -/
structure Fits (measure : Text → Nat) (width : Nat) (state : LineState) (first : Line)
    (later : List Line) : Prop where
  first_fits : HasFlat first → state.column + lineWidth measure first ≤ width
  later_fit : ∀ line ∈ later, HasFlat line → lineWidth measure line ≤ width
  full : state.full → ∀ p ∈ first, p.mode = .flat

section

variable {state state' : LineState} {first : Line} {later : List Line}

theorem Fits.write_broken {t : Text}
    (hnext : next measure width state (.write .broken t) = some state')
    (h : Fits measure width state' first later) : ∃ first' later',
      glue (Stroke.write .broken t).lines (first :: later) = first' :: later' ∧
      Fits measure width state first' later' := by
  simp only [next, Option.ite_none_left_eq_some, Option.some.injEq, Bool.not_eq_true] at hnext
  obtain ⟨hfull, rfl⟩ := hnext
  have hbroken : ∀ s : Text, HasFlat ([⟨.broken, s⟩] ++ first) → HasFlat first := by
    intro s hflat
    exact (hasFlat_append.mp hflat).resolve_left (not_hasFlat (by simp))
  by_cases hline : '\n' ∈ t
  · obtain ⟨before, hbefore⟩ := exists_lastLine hline
    obtain ⟨line, lines, hlines⟩ := List.exists_cons_of_ne_nil (List.splitOn_ne_nil '\n' before)
    refine ⟨[⟨.broken, line⟩], lines.map (fun s => [⟨.broken, s⟩]) ++
      ([⟨.broken, t.lastLine⟩] ++ first) :: later, ?_, ?_, ?_, ?_⟩
    · rw [Stroke.lines, hbefore, hlines, List.map_append, List.map_singleton, glue_append]
      rfl
    · exact fun hflat => absurd hflat (not_hasFlat (by simp))
    · intro other hother hflat
      rcases List.mem_append.mp hother with hother | hother
      · obtain ⟨s, -, rfl⟩ := List.mem_map.mp hother
        exact absurd hflat (not_hasFlat (by simp))
      · rcases List.mem_cons.mp hother with rfl | hother
        · have hfits := h.first_fits (hbroken _ hflat)
          rw [lineWidth_append, lineWidth_singleton]
          simpa [Doc.writeText, hline] using hfits
        · exact h.later_fit other hother hflat
    · simp [hfull]
  · refine ⟨[⟨.broken, t⟩] ++ first, later, ?_, ?_, h.later_fit, by simp [hfull]⟩
    · rw [Stroke.lines, List.splitOn_eq_singleton hline]
      rfl
    · intro hflat
      have hfits := h.first_fits (hbroken _ hflat)
      rw [lineWidth_append, lineWidth_singleton, ← Nat.add_assoc]
      simpa [Doc.writeText, hline] using hfits

theorem Fits.write_flat {t : Text}
    (hnext : next measure width state (.write .flat t) = some state')
    (h : Fits measure width state' first later) : ∃ first' later',
      glue (Stroke.write .flat t).lines (first :: later) = first' :: later' ∧
      Fits measure width state first' later' := by
  simp only [next, Option.ite_none_right_eq_some, Option.some.injEq] at hnext
  obtain ⟨⟨hfull, hline, hle⟩, rfl⟩ := hnext
  refine ⟨[⟨.flat, t⟩] ++ first, later, ?_, fun _ => ?_, h.later_fit, fun _ => ?_⟩
  · rw [Stroke.lines, List.splitOn_eq_singleton hline]
    rfl
  · rw [lineWidth_append, lineWidth_singleton, ← Nat.add_assoc]
    cases first with
    | nil => exact hle
    | cons p first => exact h.first_fits ⟨p, by simp, h.full rfl p (by simp)⟩
  · simpa using h.full rfl

theorem Fits.newline {indent : Nat} (hspace : measure " " = 1)
    (h : Fits measure width ⟨indent, false⟩ first later) : ∃ first' later',
      glue (Stroke.newline indent).lines (first :: later) = first' :: later' ∧
      Fits measure width state first' later' := by
  have hspaces : lineWidth measure (List.replicate indent ⟨.broken, " "⟩) = indent := by
    rw [lineWidth, List.map_replicate, hspace]
    simp
  refine ⟨[], (List.replicate indent ⟨.broken, " "⟩ ++ first) :: later, rfl, ?_, ?_, by simp⟩
  · exact fun hflat => absurd hflat (not_hasFlat (by simp))
  · intro line hline hflat
    rcases List.mem_cons.mp hline with rfl | hline
    · have hfirst := (hasFlat_append.mp hflat).resolve_left (not_hasFlat (by simp))
      rw [lineWidth_append, hspaces]
      exact h.first_fits hfirst
    · exact h.later_fit line hline hflat

/-- What one stroke does to the lines. -/
theorem Fits.step {stroke : Stroke} (hspace : measure " " = 1)
    (hnext : next measure width state stroke = some state')
    (h : Fits measure width state' first later) : ∃ first' later',
      glue stroke.lines (first :: later) = first' :: later' ∧
      Fits measure width state first' later' := by
  cases stroke with
  | write mode t =>
    cases mode with
    | broken => exact h.write_broken hnext
    | flat => exact h.write_flat hnext
  | newline indent =>
    obtain rfl := Option.some.inj hnext
    exact h.newline hspace
  | decide d =>
    simp only [next, Option.ite_none_left_eq_some, Option.some.injEq, Bool.not_eq_true] at hnext
    obtain ⟨hfull, rfl⟩ := hnext
    exact ⟨first, later, rfl, h.first_fits, h.later_fit, by simp [hfull]⟩

theorem fits_of_run {strokes : List Stroke} (hspace : measure " " = 1)
    (h : run measure width state strokes = some state') : ∃ first later,
      linesOf strokes = first :: later ∧ Fits measure width state first later := by
  induction strokes generalizing state with
  | nil => exact ⟨[], [], rfl, fun hflat => absurd hflat (not_hasFlat (by simp)), by simp, by simp⟩
  | cons stroke strokes ih =>
    obtain ⟨middle, hnext, hrun⟩ := run_cons.mp h
    obtain ⟨first, later, hlines, hfits⟩ := ih hrun
    obtain ⟨first', later', hglue, hfits'⟩ := hfits.step hspace hnext
    refine ⟨first', later', ?_, hfits'⟩
    rw [← hglue, ← hlines]
    rfl

end

end LineState

/-! ## Documents between lines -/

/-- Texts can follow on the line. -/
def Free (full : Bool) : Prop := full = false

/-- The line may be full. -/
def Anyhow (_ : Bool) : Prop := True

namespace Doc

open LineState

variable {measure : Text → Nat} {width : Nat} {start middle stop : Bool → Prop}

/-- Printed from a line as given at first, the document leaves a line as given at last, and all its
strokes are accepted. Where it fits, it is printed flat within the width. -/
structure Lays (measure : Text → Nat) (width : Nat) (doc : Doc) (start stop : Bool → Prop) :
    Prop where
  broken (indent column : Nat) (full : Bool) (h : start full) : ∃ full', stop full' ∧
    run measure width ⟨column, full⟩ (doc.print measure width .broken indent column).strokes =
      some ⟨(doc.print measure width .broken indent column).column, full'⟩
  flat (indent column : Nat) (h : doc.hasHardBreak = false)
    (hfit : column + doc.flatWidth measure ≤ width) :
    (doc.print measure width .flat indent column).column = column + doc.flatWidth measure ∧
    run measure width ⟨column, true⟩ (doc.print measure width .flat indent column).strokes =
      some ⟨column + doc.flatWidth measure, true⟩

theorem Lays.anyhow {doc : Doc} (h : doc.Lays measure width start stop) :
    doc.Lays measure width start Anyhow where
  broken indent column full hstart := by
    obtain ⟨full', -, hrun⟩ := h.broken indent column full hstart
    exact ⟨full', trivial, hrun⟩
  flat := h.flat

theorem next_write (column : Nat) (t : Text) :
    next measure width ⟨column, false⟩ (.write .broken t) =
      some ⟨(writeText measure .broken t column).column, false⟩ := rfl

theorem next_flat {column : Nat} {t : Text} (hline : '\n' ∉ t) (hfit : column + measure t ≤ width) :
    next measure width ⟨column, true⟩ (.write .flat t) = some ⟨column + measure t, true⟩ := by
  simp [next, hline, hfit]

theorem lays_text (t : Text) : (text t).Lays measure width Free Free where
  broken indent column full h := by
    obtain rfl : full = false := h
    rw [print]
    exact ⟨false, rfl, run_cons.mpr ⟨_, next_write column t, rfl⟩⟩
  flat indent column h hfit := by
    have hline : '\n' ∉ t := by simpa [hasHardBreak] using h
    rw [print, flatWidth]
    refine ⟨by simp [writeText, hline], ?_⟩
    exact run_cons.mpr ⟨_, next_flat hline hfit, rfl⟩

theorem lays_softBreak (hspace : measure " " = 1) : softBreak.Lays measure width start Free where
  broken indent column full h := by
    rw [print]
    exact ⟨false, rfl, run_cons.mpr ⟨_, rfl, rfl⟩⟩
  flat indent column h hfit := by
    have hwidth : softBreak.flatWidth measure = measure " " := by rw [flatWidth, hspace]
    rw [print, hwidth]
    rw [hwidth] at hfit
    exact ⟨rfl, run_cons.mpr ⟨_, next_flat (by simp) hfit, rfl⟩⟩

theorem lays_emptyBreak : emptyBreak.Lays measure width start Free where
  broken indent column full h := by
    rw [print]
    exact ⟨false, rfl, run_cons.mpr ⟨_, rfl, rfl⟩⟩
  flat indent column h hfit := by
    rw [print, flatWidth]
    exact ⟨rfl, rfl⟩

theorem lays_nil : (concat []).Lays measure width start start where
  broken indent column full h := by
    rw [print, printAll]
    exact ⟨full, h, rfl⟩
  flat indent column h hfit := by
    rw [print, printAll, flatWidth, flatWidths]
    exact ⟨rfl, rfl⟩

theorem Lays.cons {first : Doc} {later : List Doc} (h : first.Lays measure width start middle)
    (hlater : (concat later).Lays measure width middle stop) :
    (concat (first :: later)).Lays measure width start stop where
  broken indent column full hstart := by
    obtain ⟨full₁, hmiddle, hrun⟩ := h.broken indent column full hstart
    obtain ⟨full₂, hstop, hrun'⟩ := hlater.broken indent _ full₁ hmiddle
    rw [print] at hrun'
    rw [print, printAll]
    exact ⟨full₂, hstop, run_append.mpr ⟨_, hrun, hrun'⟩⟩
  flat indent column hhard hfit := by
    simp only [hasHardBreak, anyHardBreak, Bool.or_eq_false_iff] at hhard
    simp only [flatWidth, flatWidths] at hfit ⊢
    obtain ⟨hcolumn, hrun⟩ := h.flat indent column hhard.1 (by omega)
    obtain ⟨hcolumn', hrun'⟩ := hlater.flat indent (column + first.flatWidth measure)
      (by rw [hasHardBreak]; exact hhard.2) (by rw [flatWidth]; omega)
    rw [print, flatWidth, Nat.add_assoc] at hcolumn' hrun'
    rw [print, printAll, hcolumn]
    exact ⟨hcolumn', run_append.mpr ⟨_, hrun, hrun'⟩⟩

theorem Lays.nest {inner : Doc} (amount : Nat) (h : inner.Lays measure width start stop) :
    (nest amount inner).Lays measure width start stop where
  broken indent column full hstart := by
    rw [print]
    exact h.broken _ column full hstart
  flat indent column hhard hfit := by
    rw [hasHardBreak] at hhard
    rw [flatWidth] at hfit ⊢
    rw [print]
    exact h.flat _ column hhard hfit

theorem Lays.hang {inner : Doc} (amount : Nat) (h : inner.Lays measure width start stop) :
    (hang amount inner).Lays measure width start stop where
  broken indent column full hstart := by
    rw [print]
    exact h.broken _ column full hstart
  flat indent column hhard hfit := by
    rw [hasHardBreak] at hhard
    rw [flatWidth] at hfit ⊢
    rw [print]
    exact h.flat _ column hhard hfit

theorem Lays.group {inner : Doc} (h : inner.Lays measure width Free stop) :
    (group inner).Lays measure width Free Anyhow where
  broken indent column full hstart := by
    obtain rfl : full = false := hstart
    rw [print]
    cases hfits : (decideFit measure width inner column).fits with
    | true =>
      have hfit := hfits
      simp only [decideFit, Bool.and_eq_true, decide_eq_true_eq, Bool.not_eq_true'] at hfit
      obtain ⟨hcolumn, hrun⟩ := h.flat indent column hfit.2 hfit.1
      refine ⟨true, trivial, run_cons.mpr ⟨⟨column, true⟩, by simp [next, hfits], ?_⟩⟩
      simp only [if_true, hcolumn, hrun]
    | false =>
      obtain ⟨full', -, hrun⟩ := h.broken indent column false rfl
      exact ⟨full', trivial, run_cons.mpr ⟨⟨column, false⟩, by simp [next, hfits], hrun⟩⟩
  flat indent column hhard hfit := by
    rw [hasHardBreak] at hhard
    rw [flatWidth] at hfit ⊢
    rw [print]
    exact h.flat _ column hhard hfit

/-- Delimiters touch what they enclose, so no flat group may come last in it. -/
theorem Lays.enclose {opening closing : Text} {inner : Doc} (hopening : '\n' ∉ opening)
    (hclosing : '\n' ∉ closing) (h : inner.Lays measure width Free Free) :
    (enclose opening closing inner).Lays measure width Free Free where
  broken indent column full hstart := by
    obtain rfl : full = false := hstart
    rw [print]
    obtain ⟨full', hfree, hrun⟩ :=
      h.broken indent (writeText measure .broken opening column).column false rfl
    obtain rfl : full' = false := hfree
    refine ⟨false, rfl, run_append.mpr ⟨_, run_append.mpr ⟨_, ?_, hrun⟩, ?_⟩⟩
    · exact run_cons.mpr ⟨_, next_write column opening, rfl⟩
    · exact run_cons.mpr ⟨_, next_write _ closing, rfl⟩
  flat indent column hhard hfit := by
    rw [hasHardBreak] at hhard
    rw [flatWidth] at hfit ⊢
    obtain ⟨hcolumn, hrun⟩ := h.flat indent (column + measure opening) hhard (by omega)
    have hfirst : (writeText measure .flat opening column).column = column + measure opening := by
      simp [writeText, hopening]
    rw [print, hfirst, hcolumn]
    have hlast : (writeText measure .flat closing (column + measure opening +
        inner.flatWidth measure)).column =
        column + (measure opening + inner.flatWidth measure + measure closing) := by
      simp [writeText, hclosing, Nat.add_assoc]
    refine ⟨hlast, run_append.mpr ⟨_, run_append.mpr ⟨_, ?_, hrun⟩, ?_⟩⟩
    · exact run_cons.mpr ⟨_, next_flat hopening (by omega), rfl⟩
    · refine run_cons.mpr ⟨_, next_flat hclosing (by omega), ?_⟩
      simp [run, Nat.add_assoc]

/-- What the room on a line says of it. -/
def lineAllows : Room → Bool → Prop
  | .free => Free
  | .taken => Anyhow

theorem Lays.allows {doc : Doc} (h : doc.Lays measure width start Free) (after : Room) :
    doc.Lays measure width start (lineAllows after) := by
  cases after with
  | free => exact h
  | taken => exact h.anyhow

/-- A document that is placed by the rules keeps its lines in order. -/
theorem Placed.lays {before after : Room} {doc : Doc} (hspace : measure " " = 1)
    (h : Placed before doc after) :
    doc.Lays measure width (lineAllows before) (lineAllows after) := by
  induction h with
  | text t after => exact (lays_text t).allows after
  | softBreak before after => exact (lays_softBreak hspace).allows after
  | emptyBreak before after => exact lays_emptyBreak.allows after
  | nil room => exact lays_nil
  | cons _ _ ih ih' => exact ih.cons ih'
  | group _ ih => exact ih.group
  | nest amount _ ih => exact ih.nest amount
  | hang amount _ ih => exact ih.hang amount
  | enclose hopening hclosing _ after ih => exact (ih.enclose hopening hclosing).allows after

end Doc

/-! ## Pages -/

/-- No line with anything flat on it is too wide, and after a group that was found to fit nothing
comes on the line but its texts. -/
structure Printed.KeepsWidth (measure : Text → Nat) (width : Nat) (page : Printed) : Prop where
  lines_fit : ∀ line ∈ page.lines, (∃ p ∈ line, p.mode = .flat) → lineWidth measure line ≤ width
  line_ends : ∀ before d after, page.strokes = before ++ .decide d :: after → d.fits →
    ∃ flat rest, after = flat ++ rest ∧ (∀ stroke ∈ flat, ∃ t, stroke = .write .flat t) ∧
      (rest = [] ∨ ∃ indent later, rest = .newline indent :: later)

theorem keepsWidth_of_run {measure : Text → Nat} {width : Nat} {page : Printed} {state : LineState}
    (hspace : measure " " = 1)
    (h : LineState.run measure width ⟨0, false⟩ page.strokes = some state) :
    page.KeepsWidth measure width := by
  constructor
  · obtain ⟨first, later, hlines, hfits⟩ := LineState.fits_of_run hspace h
    intro line hline hflat
    rw [Printed.lines, hlines] at hline
    rcases List.mem_cons.mp hline with rfl | hline
    · simpa using hfits.first_fits hflat
    · exact hfits.later_fit line hline hflat
  · intro before d after hstrokes hd
    rw [hstrokes] at h
    obtain ⟨_, -, hrest⟩ := LineState.run_append.mp h
    obtain ⟨_, hnext, hafter⟩ := LineState.run_cons.mp hrest
    simp only [LineState.next, Option.ite_none_left_eq_some, Option.some.injEq] at hnext
    obtain ⟨-, rfl⟩ := hnext
    rw [hd] at hafter
    exact LineState.ends_of_run hafter

/-- The query laid out on a page, with texts measured in any way. -/
def Query.page (measure : Text → Nat) (width : Nat) (style : Style) (q : Query) : Printed :=
  (q.layout style).printPage measure width

theorem keepsWidth_page {t : Text} {q : Query} (h : parse t = .ok q) (width : Nat) (style : Style)
    {measure : Text → Nat} (hspace : measure " " = 1) :
    (q.page measure width style).KeepsWidth measure width := by
  have hlays : (q.layout style).Lays measure width Free Anyhow :=
    (placed_of_parse h style).lays hspace
  obtain ⟨full, -, hrun⟩ := hlays.broken 0 0 false rfl
  exact keepsWidth_of_run hspace hrun

/-- Of the lines of a formatted query, only those that hold nothing flat run over the width, however
texts are measured. -/
theorem format_keeps_width {t : Text} {q : Query} (h : parse t = .ok q) (width : Nat)
    (style : Style) :
    format width style t = .ok (q.page Text.width width style).text ∧ Text.width " " = 1 ∧
    ∀ measure : Text → Nat, measure " " = 1 →
      (q.page measure width style).lines.map lineText =
        (q.page measure width style).text.splitOn '\n' ∧
      (q.page measure width style).KeepsWidth measure width := by
  refine ⟨?_, rfl, fun measure hspace => ⟨lines_text _, keepsWidth_page h width style hspace⟩⟩
  rw [format, h]
  rfl

theorem format_keeps_width_spanning : ∃ q, parse "a:(b OR c) AND \"x\ny\"" = .ok q ∧
    format 10 .compact "a:(b OR c) AND \"x\ny\"" = .ok (q.page Text.width 10 .compact).text ∧
    (q.page Text.width 10 .compact).lines.map lineText =
      (q.page Text.width 10 .compact).text.splitOn '\n' ∧
    (q.page Text.width 10 .compact).KeepsWidth Text.width 10 := by
  have h : parse "a:(b OR c) AND \"x\ny\"" = .ok (.sequence [.field "a" (.parenthesized (.sequence
      [.term "b", .operator .or, .term "c"])), .operator .and, .term "\"x\ny\""]) := by decide +kernel
  obtain ⟨hformat, hspace, hmeasure⟩ := format_keeps_width h 10 .compact
  exact ⟨_, h, hformat, hmeasure Text.width hspace⟩

example : ((Query.sequence [.field "a" (.parenthesized (.sequence [.term "b", .operator .or,
    .term "c"])), .operator .and, .term "\"x\ny\""]).page Text.width 10 .compact).lines =
    [[⟨.broken, "a"⟩, ⟨.broken, ":"⟩, ⟨.flat, "("⟩, ⟨.flat, "b"⟩, ⟨.flat, " "⟩, ⟨.flat, "OR"⟩,
      ⟨.flat, " "⟩, ⟨.flat, "c"⟩, ⟨.flat, ")"⟩], [⟨.broken, "AND"⟩], [⟨.broken, "\"x"⟩],
      [⟨.broken, "y\""⟩]] := by rfl

end SearchQuery
