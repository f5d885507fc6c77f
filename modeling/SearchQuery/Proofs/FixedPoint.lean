import SearchQuery.Command
import SearchQuery.Proofs.Ending
import SearchQuery.Proofs.Fragments
import SearchQuery.Proofs.RoundTrip

/-! # Formatting the output again -/

namespace SearchQuery

/-! ## A newline after the query -/

theorem blank_newline : Blank "\n" := by
  intro x hx
  obtain rfl : x = '\n' := by simpa using hx
  decide

theorem dangling_newline (s : Text) : dangling (s ++ "\n") = false := by
  by_cases h : dangling s
  · exact dangling_snoc h '\n'
  · rw [dangling_append (by simpa using h)]
    rfl

section

variable {t : Text} {q : Query} (h : parse t = .ok q) (width : Nat) (style : Style)

include h

theorem dangling_format : dangling (q.format width style) = dangling t := by
  obtain ⟨items, b, s, b', hq, hspells, hb, hb', hend, rfl⟩ := parse_eq_ok_iff.mp h
  rw [hspells.dangling_around hb hb' hend]
  exact (spells_format hspells hq width style).dangling_eq hspells

theorem parse_format_newline (hclosed : dangling t = false) :
    parse (q.format width style ++ "\n") = .ok q := by
  rw [← dangling_format h width style] at hclosed
  obtain ⟨items, _, _, _, hq, hspells, -⟩ := parse_eq_ok_iff.mp h
  have hformat := spells_format hspells hq width style
  exact parse_eq_ok_iff.mpr ⟨items, [], _, "\n", hq, hformat, blank_nil, blank_newline,
    .inl (hformat.closed_iff.mpr hclosed), rfl⟩

/-- A backslash at the end of a formatted query takes the newline along. -/
theorem exists_parse_of_dangling (hdangling : dangling t) :
    ∃ q', parse (q.format width style ++ "\n") = .ok q' := by
  rw [← dangling_format h width style] at hdangling
  obtain ⟨items, _, _, _, hq, hspells, -⟩ := parse_eq_ok_iff.mp h
  have hformat := spells_format hspells hq width style
  have hopen : ¬ Closed items := by simp [hformat.closed_iff, hdangling]
  obtain ⟨items', hspells', -⟩ := hformat.snoc hopen '\n'
  obtain ⟨q', hq'⟩ := exists_ofItems hspells'
  exact ⟨q', parse_eq_ok_iff.mpr ⟨items', [], _, [], hq', hspells', blank_nil, blank_nil, .inr rfl,
    by simp⟩⟩

theorem exists_parse_newline : ∃ q', parse (q.format width style ++ "\n") = .ok q' ∧
    (q'.format width style = q.format width style ↔ dangling t = false) := by
  by_cases hdangling : dangling t
  · obtain ⟨q', hq'⟩ := exists_parse_of_dangling h width style hdangling
    refine ⟨q', hq', iff_of_false ?_ (by simp [hdangling])⟩
    -- The first layout ends with a lone backslash, and the second one never does.
    intro heq
    have hclosed := dangling_format hq' width style
    rw [heq, dangling_format h, dangling_newline, hdangling] at hclosed
    simp at hclosed
  · rw [Bool.not_eq_true] at hdangling
    exact ⟨q, parse_format_newline h width style hdangling, iff_of_true rfl hdangling⟩

end

/-! ## Runs of the program -/

/-- A text on standard input, and no files. -/
def Source.piped (t : Text) : Source := ⟨⟨[]⟩, (String.ofList t).toUTF8⟩

theorem Source.load_piped (t : Text) : (piped t).load standardInput = .ok t := by
  have hdecode : String.fromUTF8? (String.ofList t).toUTF8 = some (String.ofList t) := by
    unfold String.fromUTF8?
    split
    · rfl
    · next hvalid => exact absurd (String.ofList t).isValidUTF8 (by simpa using hvalid)
  simp only [load, piped, decodeQuery, ↓reduceIte, hdecode, String.toList_ofList]

namespace Command

section

variable {arguments keywords : List Text} {width : Nat} {style : Style} {file : Text}
  (hrequest : parseArguments? {} arguments = some (.run (.format width style .plain keywords) file))

include hrequest

theorem respond_format {source : Source} {content : Text} {q : Query}
    (hload : source.load file = .ok content) (hparse : parse content = .ok q) :
    respond source arguments = .write (q.format width style ++ "\n") := by
  have hcovers : Covers (q.format width style) ((highlighterFor keywords).classify _) :=
    covers_classify (Highlighter.configured_kinds [keywords]) _
  have hmarked : prettify width style (highlighterFor keywords) Output.plain.markup content =
      .ok (q.format width style) := by
    rw [prettify, format_of_parse hparse]
    exact congrArg Except.ok (highlight_plain hcovers)
  simp only [respond, hrequest, Request.answer, hload, Task.answer, hmarked]
  rfl

/-- The program reads what it has written for a query. It writes the same again unless the query ends
with a lone backslash. What it writes the second time it always writes again. -/
theorem format_output_fixed_iff {source : Source} {content : Text} {q : Query}
    (hload : source.load file = .ok content) (hparse : parse content = .ok q) :
    ∃ printed, respond source arguments = .write printed ∧
      ∀ source', source'.load file = .ok printed →
        ∃ reprinted, respond source' arguments = .write reprinted ∧
          (reprinted = printed ↔ dangling content = false) ∧
          ∀ source'', source''.load file = .ok reprinted →
            respond source'' arguments = .write reprinted := by
  refine ⟨_, respond_format hrequest hload hparse, ?_⟩
  intro source' hload'
  obtain ⟨q', hq', hiff⟩ := exists_parse_newline hparse width style
  refine ⟨_, respond_format hrequest hload' hq', ?_, ?_⟩
  · rw [List.append_left_inj]
    exact hiff
  · intro source'' hload''
    exact respond_format hrequest hload''
      (parse_format_newline hq' width style (dangling_newline _))

end

theorem format_output_fixed_iff_escaped_blank :
    parseArguments? {} ["format", "-w5", "-"] =
      some (.run (.format 5 .compact .plain []) standardInput) ∧
    parse "a  b\\ " = .ok (.sequence [.term "a", .operator .either, .term "b\\ "]) ∧
    ∃ printed, respond (.piped "a  b\\ ") ["format", "-w5", "-"] = .write printed ∧
      ∀ source' : Source, source'.load standardInput = .ok printed →
        ∃ reprinted, respond source' ["format", "-w5", "-"] = .write reprinted ∧
          (reprinted = printed ↔ dangling "a  b\\ " = false) ∧
          ∀ source'' : Source, source''.load standardInput = .ok reprinted →
            respond source'' ["format", "-w5", "-"] = .write reprinted := by
  have hrequest : parseArguments? {} ["format", "-w5", "-"] =
      some (.run (.format 5 .compact .plain []) standardInput) := rfl
  have hparse : parse "a  b\\ " =
      .ok (.sequence [.term "a", .operator .either, .term "b\\ "]) := by decide +kernel
  exact ⟨hrequest, hparse, format_output_fixed_iff hrequest (Source.load_piped _) hparse⟩

/-- The newline after a lone backslash becomes part of the query. -/
theorem format_output_grows :
    parse "a\\" = .ok (.term "a\\") ∧
    respond (.piped "a\\") ["format", "-"] = .write "a\\\n" ∧
    respond (.piped "a\\\n") ["format", "-"] = .write "a\\\n\n" := by
  have hrequest : parseArguments? {} ["format", "-"] =
      some (.run (.format defaultWidth .compact .plain []) standardInput) := rfl
  have hfirst : parse "a\\" = .ok (.term "a\\") := by decide +kernel
  have hsecond : parse "a\\\n" = .ok (.term "a\\\n") := by decide +kernel
  exact ⟨hfirst, respond_format hrequest (Source.load_piped _) hfirst,
    respond_format hrequest (Source.load_piped _) hsecond⟩

end Command

end SearchQuery
