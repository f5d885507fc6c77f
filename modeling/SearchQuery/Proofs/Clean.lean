import SearchQuery.Proofs.LineWidth
import SearchQuery.Proofs.OneLine

/-! # No line is blank or ends with a blank -/

namespace SearchQuery

/-! ## Ends of texts -/

/-- The text ends with a character that is not blank. -/
def Inked (t : Text) : Prop := ∃ x ∈ t.getLast?, isSpace x = false

theorem Inked.append {t : Text} (h : Inked t) (s : Text) : Inked (s ++ t) := by
  obtain ⟨x, hx, hink⟩ := h
  refine ⟨x, ?_, hink⟩
  rw [List.getLast?_append, hx]
  rfl

theorem Inked.last {t : Text} (h : Inked t) : ∀ x ∈ t.getLast?, isSpace x = false := by
  obtain ⟨y, hy, hink⟩ := h
  intro x hx
  obtain rfl : y = x := Option.mem_unique hy hx
  exact hink

theorem Inked.not_blank {t : Text} (h : Inked t) : ¬ Blank t := by
  obtain ⟨x, hx, hink⟩ := h
  intro hblank
  have := hblank x (List.mem_of_getLast? hx)
  simp [hink] at this

/-- The text is a part of one line and ends with a character that is not blank. -/
structure IsInk (t : Text) : Prop where
  newline_not_mem : '\n' ∉ t
  inked : Inked t

theorem isInk_iff {t : Text} :
    IsInk t ↔ '\n' ∉ t ∧ t.getLast?.any (fun x => !isSpace x) := by
  rw [Option.any_eq_true]
  constructor
  · rintro ⟨hline, x, hx, hink⟩
    exact ⟨hline, x, hx, by simp [hink]⟩
  · rintro ⟨hline, x, hx, hink⟩
    exact ⟨hline, x, hx, by simpa using hink⟩

instance : DecidablePred IsInk := fun _ => decidable_of_iff _ isInk_iff.symm

theorem Operator.isInk {op : Operator} (h : op ≠ .either) : IsInk op.text := by
  cases op with
  | either => exact absurd rfl h
  | _ => decide

theorem Mark.isInk (mark : Mark) : IsInk mark.text := by
  cases mark <;> decide

theorem Edge.isInk (edge : Edge) : IsInk edge.opening ∧ IsInk edge.closing := by
  cases edge <;> decide

/-! ## Lines so far -/

/-- What is known of the last character between two documents. -/
inductive Tip where
  /-- It is not blank, so that a line can end. -/
  | inked
  /-- There is no telling. -/
  | unknown
deriving DecidableEq, Repr

/-- All lines of the text but the last are finished, and end with a character that is not blank. -/
structure Neat (tip : Tip) (t : Text) : Prop where
  lines : ∃ lines last, t.splitOn '\n' = lines ++ [last] ∧ (∀ line ∈ lines, Inked line) ∧
    (tip = .inked → Inked last)
  inked : tip = .inked → Inked t

theorem Neat.inked_of_mem {t line : Text} (h : Neat .inked t) (hline : line ∈ t.splitOn '\n') :
    Inked line := by
  obtain ⟨lines, last, hlines, hinked, hlast⟩ := h.lines
  rw [hlines] at hline
  rcases List.mem_append.mp hline with hline | hline
  · exact hinked line hline
  · rw [List.mem_singleton.mp hline]
    exact hlast rfl

theorem neat_nil : Neat .unknown [] := ⟨⟨[], [], rfl, by simp, nofun⟩, nofun⟩

section

variable {tip : Tip} {t s : Text}

theorem Neat.unknown (h : Neat tip t) : Neat .unknown t := by
  obtain ⟨lines, last, hlines, hinked, -⟩ := h.lines
  exact ⟨⟨lines, last, hlines, hinked, nofun⟩, nofun⟩

theorem splitOn_append_of_not_mem {lines : List Text} {last : Text}
    (hlines : t.splitOn '\n' = lines ++ [last]) (hline : '\n' ∉ s) :
    (t ++ s).splitOn '\n' = lines ++ [last ++ s] := by
  rw [splitOn_append, hlines, List.splitOn_eq_singleton hline, glue_append]

theorem Neat.write (h : Neat tip t) (hline : '\n' ∉ s) : Neat .unknown (t ++ s) := by
  obtain ⟨lines, last, hlines, hinked, -⟩ := h.lines
  exact ⟨⟨lines, last ++ s, splitOn_append_of_not_mem hlines hline, hinked, nofun⟩, nofun⟩

theorem Neat.ink (h : Neat tip t) (hs : IsInk s) : Neat .inked (t ++ s) := by
  obtain ⟨lines, last, hlines, hinked, -⟩ := h.lines
  refine ⟨⟨lines, last ++ s, splitOn_append_of_not_mem hlines hs.newline_not_mem, hinked, ?_⟩, ?_⟩
  · exact fun _ => hs.inked.append last
  · exact fun _ => hs.inked.append t

theorem Neat.startLine (h : Neat .inked t) (indent : Nat) :
    Neat .unknown (t ++ (Doc.startLine indent).text) := by
  have hspaces : '\n' ∉ List.replicate indent ' ' := by simp
  have hsplit : (t ++ (Doc.startLine indent).text).splitOn '\n' =
      t.splitOn '\n' ++ [List.replicate indent ' '] := by
    rw [Doc.startLine_eq, List.splitOn_append_cons_self, List.splitOn_eq_singleton hspaces]
  -- The line that was the last one is finished now, and the new one has its indentation only.
  exact ⟨⟨_, _, hsplit, fun _ => h.inked_of_mem, nofun⟩, nofun⟩

end

namespace Doc

/-! ## Documents with clean lines -/

/-- Printed after the tip that is given first, the document leaves the tip that is given last, and
wherever it breaks a line a text without a blank at its end comes before. -/
inductive Tidy : Tip → Doc → Tip → Prop
  | text {t : Text} (hline : '\n' ∉ t) (before : Tip) : Tidy before (text t) .unknown
  | ink {t : Text} (h : IsInk t) (before : Tip) : Tidy before (Doc.text t) .inked
  | softBreak : Tidy .inked softBreak .unknown
  | emptyBreak : Tidy .inked emptyBreak .unknown
  | nil (tip : Tip) : Tidy tip (concat []) tip
  | cons {before middle after : Tip} {first : Doc} {later : List Doc}
      (h : Tidy before first middle) (hlater : Tidy middle (concat later) after) :
      Tidy before (concat (first :: later)) after
  | group {before after : Tip} {inner : Doc} (h : Tidy before inner after) :
      Tidy before (group inner) after
  | nest {before after : Tip} {inner : Doc} (amount : Nat) (h : Tidy before inner after) :
      Tidy before (nest amount inner) after
  | hang {before after : Tip} {inner : Doc} (amount : Nat) (h : Tidy before inner after) :
      Tidy before (hang amount inner) after
  | enclose {opening closing : Text} {inner : Doc} {after : Tip} (hopening : IsInk opening)
      (hclosing : IsInk closing) (h : Tidy .inked inner after) (before : Tip) :
      Tidy before (enclose opening closing inner) .inked

theorem tidy_singleton {before after : Tip} {doc : Doc} :
    Tidy before (concat [doc]) after ↔ Tidy before doc after := by
  constructor
  · intro h
    cases h with
    | cons h hlater =>
      cases hlater
      exact h
  · intro h
    exact h.cons (.nil after)

theorem Tidy.wrap {style : Style} {doc : Doc} {before after : Tip} (h : Tidy before doc after) :
    Tidy before (style.wrap doc) after := by
  cases style with
  | compact => exact (h.hang 1).group
  | indented => exact (h.nest 2).group

/-- Wherever a document is printed, and in either mode, lines stay neat. -/
theorem Tidy.neat {before after : Tip} {doc : Doc} (h : Tidy before doc after)
    (measure : Text → Nat) (width : Nat) (mode : Mode) (indent column : Nat) {t : Text}
    (ht : Neat before t) :
    Neat after (t ++ (doc.print measure width mode indent column).text) := by
  induction h generalizing mode indent column t with
  | text hline before =>
    rw [print, Printed.text, writeText_strokes]
    exact ht.write hline
  | ink hink before =>
    rw [print, Printed.text, writeText_strokes]
    exact ht.ink hink
  | softBreak =>
    cases mode with
    | flat =>
      rw [print, Printed.text, writeText_strokes]
      exact ht.write (by simp)
    | broken =>
      rw [print]
      exact ht.startLine indent
  | emptyBreak =>
    cases mode with
    | flat =>
      -- Nothing is written, so more is known of the text than the rule says.
      rw [print]
      exact ht.unknown.write (by simp [Printed.text])
    | broken =>
      rw [print]
      exact ht.startLine indent
  | nil tip =>
    rw [print, printAll, Printed.text, List.flatMap_nil, List.append_nil]
    exact ht
  | @cons _ _ _ first _ _ _ ih ih' =>
    have hlater := ih' mode indent (first.print measure width mode indent column).column
      (ih mode indent column ht)
    rw [print_concat] at hlater ⊢
    rwa [printAll_cons_text, ← List.append_assoc]
  | group _ ih =>
    cases mode with
    | flat =>
      rw [print]
      exact ih .flat indent column ht
    | broken =>
      -- Whether the group fits makes no difference.
      rw [print_group_text]
      exact ih _ indent column ht
  | nest amount _ ih =>
    rw [print]
    exact ih mode (indent + amount) column ht
  | hang amount _ ih =>
    rw [print]
    exact ih mode (column + amount) column ht
  | @enclose opening _ _ _ hopening hclosing _ before ih =>
    have hinner := ih mode indent (writeText measure mode opening column).column
      (ht.ink hopening)
    rw [print_enclose_text, ← List.append_assoc, ← List.append_assoc]
    exact hinner.ink hclosing

end Doc

/-! ## Layouts -/

namespace Query

theorem allCaptured_singleton (q : Query) : allCaptured [q] = q.captured := by
  rw [allCaptured, allCaptured, List.append_nil]

theorem captured_ofItems? {items : List Query} {q : Query} (h : ofItems? items = some q) :
    q.captured = allCaptured items := by
  match items, h with
  | [item], rfl => rw [allCaptured_singleton]
  | _ :: _ :: _, rfl => rw [captured]

end Query

section

open Doc

variable {style : Style}

/-- The captured texts neither span lines nor end with a blank. -/
def AllClean (captured : List Text) : Prop :=
  ∀ s ∈ captured, '\n' ∉ s ∧ ∀ x ∈ s.getLast?, isSpace x = false

theorem allClean_cons {s : Text} {later : List Text} : AllClean (s :: later) ↔
    ('\n' ∉ s ∧ ∀ x ∈ s.getLast?, isSpace x = false) ∧ AllClean later :=
  List.forall_mem_cons

theorem allClean_append {captured later : List Text} :
    AllClean (captured ++ later) ↔ AllClean captured ∧ AllClean later :=
  List.forall_mem_append

theorem AllClean.isInk {captured : List Text} (h : AllClean captured) {s : Text}
    (hs : s ∈ captured) (hne : s ≠ []) : IsInk s := by
  obtain ⟨hline, hlast⟩ := h s hs
  have hsome : s.getLast? = some (s.getLast hne) := List.getLast?_eq_some_getLast hne
  exact ⟨hline, _, hsome, hlast _ hsome⟩

theorem SpellsValue.tidy {q : Query} {s : Text} (h : SpellsValue q s) (hclean : AllClean q.captured)
    (before : Tip) : Tidy before (q.layout style) .inked := by
  cases h with
  | @range left right lower upper _ _ _ _ hlower _ hupper =>
    have hink : IsInk lower := hclean.isInk (by simp [Query.captured]) hlower.ne_nil
    have hink' : IsInk upper := hclean.isInk (by simp [Query.captured]) hupper.ne_nil
    rw [Query.layout]
    have hclosing : Tidy .inked (concat [emptyBreak, text right.closing]) .inked :=
      .cons .emptyBreak (tidy_singleton.mpr (.ink right.isInk.2 .unknown))
    exact Tidy.wrap (.cons (.ink left.isInk.1 before) (.cons .emptyBreak (.cons (.ink hink .unknown)
      (.cons (.text (by simp) .inked) (.cons (.ink hink' .unknown) hclosing)))))
  | @comparison operand raw hraw =>
    have hink : IsInk raw := hclean.isInk (by simp [Query.captured]) hraw.ne_nil
    have hline : '\n' ∉ operand.text := by cases operand <;> decide
    rw [Query.layout, Query.layout]
    exact .cons (.text hline before) (tidy_singleton.mpr (.ink hink .unknown))
  | @regex expression =>
    have hslash : IsInk "/" := by decide
    have hline : '\n' ∉ expression := (hclean expression (by simp [Query.captured])).1
    rw [Query.layout]
    exact .enclose hslash hslash (.text hline .inked) before
  | word hraw =>
    rw [Query.layout]
    exact .ink (hclean.isInk (by simp [Query.captured]) hraw.ne_nil) before

theorem Spells.tidy_singleton {q : Query} {s : Text} (h : Spells [q] s) {before : Tip} :
    Tidy before (concat (separate (Query.layouts style [q]))) .inked ↔
      Tidy before (q.layout style) .inked := by
  rw [h.separate_layouts, Doc.tidy_singleton]

theorem Spells.tidy_ofItems? {items : List Query} {q : Query} {s : Text} (h : Spells items s)
    (hq : Query.ofItems? items = some q) {before : Tip}
    (hitems : Tidy before (concat (separate (Query.layouts style items))) .inked) :
    Tidy before (q.layout style) .inked := by
  match items, hq with
  | [item], rfl => exact h.tidy_singleton.mp hitems
  | first :: next :: later, rfl =>
    rw [Query.layout]
    exact hitems.group

theorem tidy_field {name : Text} {value : Query} {before : Tip} (hline : '\n' ∉ name)
    (hvalue : Tidy .inked (value.layout style) .inked) :
    Tidy before ((Query.field name value).layout style) .inked := by
  have hcolon : IsInk ":" := by decide
  rw [Query.layout]
  exact .cons (.text hline before) (.cons (.ink hcolon .unknown) (Doc.tidy_singleton.mpr hvalue))

theorem Spells.tidy {items : List Query} {s : Text} (h : Spells items s)
    (hclean : AllClean (Query.allCaptured items)) (before : Tip) :
    Tidy before (concat (separate (Query.layouts style items))) .inked := by
  induction h generalizing before with
  | word hraw hfree =>
    rw [Query.allCaptured_singleton] at hclean
    rw [(Spells.word hraw hfree).tidy_singleton, Query.layout]
    exact .ink (hclean.isInk (by simp [Query.captured]) hraw.ne_nil) before
  | parenthesized hitems hclosed hinner h₁ h₂ ih =>
    rw [Query.allCaptured_singleton, Query.captured, Query.captured_ofItems? hinner] at hclean
    rw [(Spells.parenthesized hitems hclosed hinner h₁ h₂).tidy_singleton, Query.layout]
    have hinside := hitems.tidy_ofItems? hinner (ih hclean .unknown)
    exact Tidy.wrap (.enclose (by decide) (by decide)
      (.cons .emptyBreak (hinside.cons (Doc.tidy_singleton.mpr .emptyBreak))) before)
  | negated hvalue hb hne ih =>
    rw [(Spells.negated hvalue hb hne).tidy_singleton, Query.layout]
    have hvalue' := hvalue.tidy_singleton.mp (ih hclean .unknown)
    exact Tidy.wrap (.cons (.ink (Mark.isInk .not) before)
      (.cons .softBreak (Doc.tidy_singleton.mpr hvalue')))
  | signed hmark hvalue ih =>
    rw [(Spells.signed hmark hvalue).tidy_singleton, layout_signed hmark]
    have hvalue' := hvalue.tidy_singleton.mp (ih hclean .inked)
    exact Tidy.wrap (.cons (.ink (Mark.isInk _) before) (Doc.tidy_singleton.mpr hvalue'))
  | field hname hclosed hfree hvalue =>
    rw [Query.allCaptured_singleton, Query.captured, allClean_cons] at hclean
    rw [(Spells.field hname hclosed hfree hvalue).tidy_singleton]
    exact tidy_field hclean.1.1 (hvalue.tidy hclean.2 .inked)
  | fieldParenthesized hname hclosed hfree hvalue ih =>
    rw [Query.allCaptured_singleton, Query.captured, allClean_cons,
      ← Query.allCaptured_singleton] at hclean
    rw [(Spells.fieldParenthesized hname hclosed hfree hvalue).tidy_singleton]
    exact tidy_field hclean.1.1 (hvalue.tidy_singleton.mp (ih hclean.2 .inked))
  | either hfirst hclosed hnot _ _ hmark hkeyword hlater ih ih' =>
    rw [Query.allCaptured, Query.allCaptured, Query.captured, List.nil_append,
      ← Query.allCaptured_singleton, allClean_append] at hclean
    rw [layouts_cons, layouts_cons, layouts_cons,
      separate_either hfirst.solid layout_either hlater.solid, ← layouts_cons]
    have hfirst' := hfirst.tidy_singleton.mp (ih hclean.1 before)
    exact hfirst'.cons (.cons .softBreak (ih' hclean.2 .unknown))
  | @operator op _ _ _ _ _ _ _ hop hfirst hclosed hnot _ _ _ _ hlater ih ih' =>
    rw [Query.allCaptured, Query.allCaptured, Query.captured, List.nil_append,
      ← Query.allCaptured_singleton, allClean_append] at hclean
    have hoperator : Tidy .inked (concat [softBreak, text op.text]) .inked :=
      .cons .softBreak (Doc.tidy_singleton.mpr (.ink (Operator.isInk hop) .unknown))
    rw [layouts_cons, layouts_cons, layouts_cons, layout_operator hop,
      separate_operator hfirst.solid rfl rfl hlater.solid, ← layouts_cons]
    have hfirst' := hfirst.tidy_singleton.mp (ih hclean.1 before)
    exact hfirst'.cons (hoperator.cons (.cons .softBreak (ih' hclean.2 .unknown)))

theorem neat_format {t : Text} {q : Query} (h : parse t = .ok q) (hclean : AllClean q.captured)
    (width : Nat) (style : Style) : Neat .inked (q.format width style) := by
  obtain ⟨items, _, s, _, hq, hspells, -⟩ := parse_eq_ok_iff.mp h
  rw [Query.captured_ofItems? hq] at hclean
  have htidy : Doc.Tidy .unknown (q.layout style) .inked :=
    hspells.tidy_ofItems? hq (hspells.tidy hclean .unknown)
  exact htidy.neat Text.width width .broken 0 0 neat_nil

end

/-- If no captured text spans lines or ends with a blank, the formatted query has no blank at its start
or end, no blank line, and no line that ends with a blank. -/
theorem format_clean {t : Text} {q : Query} (h : parse t = .ok q)
    (hclean : ∀ s ∈ q.captured, '\n' ∉ s ∧ ∀ x ∈ s.getLast?, isSpace x = false) (width : Nat)
    (style : Style) : ∃ f, format width style t = .ok f ∧ f ≠ [] ∧
      (∀ x ∈ f.head?, isSpace x = false) ∧ (∀ x ∈ f.getLast?, isSpace x = false) ∧
      ∀ line ∈ f.splitOn '\n', ¬ Blank line ∧ ∀ x ∈ line.getLast?, isSpace x = false := by
  obtain ⟨items, _, s, _, hq, hspells, -⟩ := parse_eq_ok_iff.mp h
  have hstarts := (spells_format hspells hq width style).starts
  have hneat := neat_format h hclean width style
  refine ⟨q.format width style, format_of_parse h width style, hstarts.ne_nil, hstarts.trimmed,
    (hneat.inked rfl).last, ?_⟩
  intro line hline
  have hinked := hneat.inked_of_mem hline
  exact ⟨hinked.not_blank, hinked.last⟩

theorem format_clean_narrow : ∃ q, parse "x:(a OR \"b c\") -y:[1 TO 2]" = .ok q ∧
    (∀ s ∈ q.captured, '\n' ∉ s ∧ ∀ x ∈ s.getLast?, isSpace x = false) ∧
    ∃ f, format 3 .indented "x:(a OR \"b c\") -y:[1 TO 2]" = .ok f ∧ f ≠ [] ∧
      (∀ x ∈ f.head?, isSpace x = false) ∧ (∀ x ∈ f.getLast?, isSpace x = false) ∧
      ∀ line ∈ f.splitOn '\n', ¬ Blank line ∧ ∀ x ∈ line.getLast?, isSpace x = false := by
  have h : parse "x:(a OR \"b c\") -y:[1 TO 2]" = .ok (.sequence [.field "x" (.parenthesized
      (.sequence [.term "a", .operator .or, .term "\"b c\""])), .operator .either,
      .marked .minus (.field "y" (.range .inclusive "1" "2" .inclusive))]) := by decide +kernel
  have hclean : ∀ s ∈ (["x", "a", "\"b c\"", "y", "1", "2"] : List Text),
      '\n' ∉ s ∧ ∀ x ∈ s.getLast?, isSpace x = false := by simp [isSpace]
  exact ⟨_, h, hclean, format_clean h hclean 3 .indented⟩

example : (Query.sequence [.field "x" (.parenthesized (.sequence [.term "a", .operator .or,
    .term "\"b c\""])), .operator .either, .marked .minus (.field "y" (.range .inclusive "1" "2"
    .inclusive))]).format 3 .indented =
    ("x:(\n  a\n  OR\n  \"b c\"\n  )\n-y:[\n    1 TO 2\n    ]" : Text) := by rfl

end SearchQuery
