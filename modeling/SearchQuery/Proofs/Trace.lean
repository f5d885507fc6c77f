import SearchQuery.Command
import SearchQuery.Trace

/-! # What a trace tells -/

namespace SearchQuery

/-! ## Decisions of the printer -/

/-- A group that was found to fit ends within the width. -/
def Decision.WithinWidth (width : Nat) (d : Decision) : Prop := d.fits → d.column + d.needed ≤ width

namespace Doc

section

variable (measure : Text → Nat) (width : Nat)

theorem withinWidth_decideFit (inner : Doc) (column : Nat) :
    (decideFit measure width inner column).WithinWidth width := by
  intro hfits
  unfold decideFit at *
  simp only [Bool.and_eq_true, decide_eq_true_eq] at hfits
  exact hfits.1

theorem decide_not_mem_writeText (mode : Mode) (t : Text) (column : Nat) (d : Decision) :
    .decide d ∉ (writeText measure mode t column).strokes := by
  simp [writeText]

theorem decide_not_mem_startLine (indent : Nat) (d : Decision) :
    .decide d ∉ (startLine indent).strokes := by
  simp [startLine]

mutual

theorem withinWidth_print (doc : Doc) (mode : Mode) (indent column : Nat) {d : Decision}
    (hd : .decide d ∈ (doc.print measure width mode indent column).strokes) :
    d.WithinWidth width := by
  cases doc with
  | text t =>
    unfold print at hd
    exact absurd hd (decide_not_mem_writeText measure mode t column d)
  | concat parts =>
    unfold print at hd
    exact withinWidth_printAll parts mode indent column hd
  | softBreak =>
    unfold print at hd
    cases mode with
    | flat => exact absurd hd (decide_not_mem_writeText measure .flat " " column d)
    | broken => exact absurd hd (decide_not_mem_startLine indent d)
  | emptyBreak =>
    unfold print at hd
    cases mode with
    | flat => exact absurd hd List.not_mem_nil
    | broken => exact absurd hd (decide_not_mem_startLine indent d)
  | hardBreak =>
    unfold print at hd
    exact absurd hd (decide_not_mem_startLine indent d)
  | group inner =>
    unfold print at hd
    cases mode with
    | flat => exact withinWidth_print inner .flat indent column hd
    | broken =>
      rcases List.mem_cons.mp hd with hd | hd
      · rw [Stroke.decide.inj hd]
        exact withinWidth_decideFit measure width inner column
      · exact withinWidth_print inner _ indent column hd
  | nest amount inner =>
    unfold print at hd
    exact withinWidth_print inner mode (indent + amount) column hd
  | hang amount inner =>
    unfold print at hd
    exact withinWidth_print inner mode (column + amount) column hd
  | enclose opening closing inner =>
    unfold print at hd
    rw [List.mem_append, List.mem_append] at hd
    rcases hd with (hd | hd) | hd
    · exact absurd hd (decide_not_mem_writeText measure mode opening column d)
    · exact withinWidth_print inner mode indent _ hd
    · exact absurd hd (decide_not_mem_writeText measure mode closing _ d)

theorem withinWidth_printAll (parts : List Doc) (mode : Mode) (indent column : Nat) {d : Decision}
    (hd : .decide d ∈ (printAll measure width mode indent column parts).strokes) :
    d.WithinWidth width := by
  cases parts with
  | nil =>
    unfold printAll at hd
    exact absurd hd List.not_mem_nil
  | cons part later =>
    unfold printAll at hd
    rcases List.mem_append.mp hd with hd | hd
    · exact withinWidth_print part mode indent column hd
    · exact withinWidth_printAll later mode indent _ hd

end

end

end Doc

theorem mem_decisions {printed : Printed} {d : Decision} :
    d ∈ printed.decisions ↔ .decide d ∈ printed.strokes := by
  unfold Printed.decisions
  rw [List.mem_filterMap]
  constructor
  · rintro ⟨stroke, hstroke, hd⟩
    split at hd
    · rwa [← Option.some.inj hd]
    · cases hd
  · intro hd
    exact ⟨.decide d, hd, rfl⟩

/-! ## Events -/

/-- What a trace says of a text apart from single steps. -/
def Event.summary (width : Nat) (style : Style) : Except QueryError Query → List Event
  | .ok query => [ofQuery query, .rendering width style]
  | .error (.mismatch m) => [.mismatch m.offset m.expected.length]
  | .error (.unresolved _) => []

section

variable (width : Nat) (style : Style)

theorem filter_ofQuery (query : Query) :
    [Event.ofQuery query, .rendering width style].filter (!·.isDetail) =
      [Event.ofQuery query, .rendering width style] := by
  cases query <;> rfl

theorem ofQuery_ne_decision (query : Query) (d : Decision) :
    .decision d ≠ Event.ofQuery query := by
  cases query <;> exact Event.noConfusion

theorem filter_details {α : Type} {f : α → Event} (h : ∀ a, (f a).isDetail) (as : List α) :
    (as.map f).filter (!·.isDetail) = [] := by
  simp [List.filter_eq_nil_iff, h]

theorem formatEvents_of_query {t : Text} {tree : Tree} {query : Query}
    (htree : parseTree t = .ok tree) (hquery : tree.toQuery = .ok query) :
    formatEvents width style t = (true, tree.walk.visits.map Event.visit ++
      [Event.ofQuery query, .rendering width style] ++
      ((query.layout style).printPage Text.width width).decisions.map Event.decision) := by
  unfold Tree.toQuery at hquery
  unfold formatEvents
  simp only [htree, hquery]

theorem formatEvents_of_unresolved {t : Text} {tree : Tree} {node : NodeRef}
    (htree : parseTree t = .ok tree) (hnode : tree.toQuery = .error node) :
    formatEvents width style t = (false, tree.walk.visits.map Event.visit) := by
  unfold Tree.toQuery at hnode
  unfold formatEvents
  simp only [htree, hnode]

theorem formatEvents_of_mismatch {t : Text} {m : Mismatch} (h : parseTree t = .error m) :
    formatEvents width style t = (false, [.mismatch m.offset m.expected.length]) := by
  unfold formatEvents
  rw [h]

/-- A trace says whether there is a layout, and apart from single steps what the parser made of the
text. The groups that it says fit are those of the layout, and end within the width. -/
theorem formatEvents_tells_format (t : Text) :
    (formatEvents width style t).1 = (format width style t).isOk ∧
    (formatEvents width style t).2.filter (!·.isDetail) = Event.summary width style (parse t) ∧
    ∀ d, .decision d ∈ (formatEvents width style t).2 → d.WithinWidth width ∧
      ∃ query, parse t = .ok query ∧
        d ∈ ((query.layout style).printPage Text.width width).decisions := by
  cases htree : parseTree t with
  | error m =>
    rw [formatEvents_of_mismatch width style htree, format, parse_of_error htree]
    refine ⟨rfl, rfl, ?_⟩
    intro d hd
    simp at hd
  | ok tree =>
    rw [format, parse_of_ok htree]
    cases hquery : tree.toQuery with
    | error node =>
      rw [formatEvents_of_unresolved width style htree hquery]
      refine ⟨rfl, filter_details (fun _ => rfl) _, ?_⟩
      intro d hd
      simp at hd
    | ok query =>
      rw [formatEvents_of_query width style htree hquery]
      refine ⟨rfl, ?_, ?_⟩
      · rw [List.filter_append, List.filter_append, filter_details (fun _ => rfl), filter_ofQuery,
          filter_details (fun _ => rfl)]
        rfl
      · intro d hd
        have hmem : d ∈ ((query.layout style).printPage Text.width width).decisions := by
          simpa [ofQuery_ne_decision] using hd
        exact ⟨Doc.withinWidth_print _ _ _ _ _ _ (mem_decisions.mp hmem), query, rfl, hmem⟩

end

/-! ## The command line -/

namespace Command

/-- All that `--debug` in front of a task adds is the log. -/
theorem respond_debug (source : Source) {name : Text} (hname : Shape.of name = .plain name)
    (arguments : List Text) :
    respond source ("--debug" :: name :: arguments) = respond source (name :: arguments) := by
  have hdashes : name ≠ "--".toList := by
    rintro rfl
    cases hname
  have hparse : ∀ f, parseArguments? f (name :: arguments) = (do
      requestOf? (← TaskName.all.find? (·.text = name)) arguments) := by
    intro f
    rw [parseArguments?, if_neg hdashes, hname]
  have hdebug : parseArguments? {} ("--debug" :: name :: arguments) =
      parseArguments? ⟨[(.debug, [])], []⟩ (name :: arguments) := by
    rw [parseArguments?, if_neg (by decide)]
    rfl
  unfold respond
  rw [hdebug, hparse, hparse]

end Command

end SearchQuery
