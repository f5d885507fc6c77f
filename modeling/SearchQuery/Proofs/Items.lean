import SearchQuery.Proofs.OneLine

/-! # Items of sequences -/

namespace SearchQuery

namespace Query

/-- What stands for an item of a sequence: the word of an operator, a condition as it is written, and
nothing for blanks alone. -/
def itemText? (write : Query → Text) : Query → Option Text
  | operator .either => none
  | operator op => some op.text
  | condition => some (write condition)

theorem itemText?_of_isCondition {q : Query} (h : q.isCondition) (write : Query → Text) :
    q.itemText? write = some (write q) := by
  cases q with
  | operator op => simp [isCondition] at h
  | _ => rfl

theorem itemText?_operator {op : Operator} (h : op ≠ .either) (write : Query → Text) :
    (operator op).itemText? write = some op.text := by
  cases op with
  | either => exact absurd rfl h
  | _ => rfl

end Query

namespace Doc

/-! ## Parts in a row -/

/-- Each part of a sequence is written for itself, with a separator for every break between them. -/
structure Joins (write : Doc → Text) (separator : Text) (writeAll : List Doc → Text) : Prop where
  last (doc : Doc) : writeAll [doc] = write doc
  join (doc : Doc) (later : List Doc) :
    writeAll (doc :: softBreak :: later) = write doc ++ (separator ++ writeAll later)
  operator (doc : Doc) (word : Text) (later : List Doc) :
    writeAll (doc :: concat [softBreak, text word] :: softBreak :: later) =
      write doc ++ (separator ++ (word ++ (separator ++ writeAll later)))

theorem joins_flatTexts : Joins flatText " " flatTexts where
  last doc := by simp [flatTexts]
  join doc later := by simp [flatTexts, flatText]
  operator doc word later := by simp [flatTexts, flatText]

theorem printAll_softBreak_text (width column : Nat) (later : List Doc) :
    (printAll Text.width width .broken 0 column (softBreak :: later)).text =
      "\n" ++ (printAll Text.width width .broken 0 0 later).text := by
  rw [printAll_cons_text, print]
  rfl

theorem joins_printAll (width : Nat) :
    Joins (render width) "\n" fun parts => (printAll Text.width width .broken 0 0 parts).text where
  last doc := by
    rw [printAll_cons_text, printAll]
    exact List.append_nil _
  join doc later := by
    rw [printAll_cons_text, printAll_softBreak_text]
    rfl
  operator doc word later := by
    -- Without an indentation every break leads to the first column, whatever came before it.
    have hoperator (column : Nat) :
        ((concat [softBreak, text word]).print Text.width width .broken 0 column).text =
          "\n" ++ word := by
      rw [print, printAll_softBreak_text, printAll_cons_text, print, printAll]
      simp [Printed.text, writeText, Stroke.text]
    rw [printAll_cons_text, printAll_cons_text, printAll_softBreak_text, hoperator]
    simp only [List.append_assoc]
    rfl

end Doc

section

open Doc

variable {style : Style}

theorem Spells.itemText? {first : Query} {later : List Query} {s : Text}
    (h : Spells (first :: later) s) (write : Query → Text) :
    first.itemText? write = some (write first) := by
  rcases h.alternate 0 first rfl with ⟨-, u, hu⟩ | ⟨hodd, -⟩
  · exact Query.itemText?_of_isCondition (isCondition_of_spells hu) write
  · simp at hodd

theorem Spells.joined {write : Doc → Text} {separator : Text} {writeAll : List Doc → Text}
    (hjoins : Joins write separator writeAll) {items : List Query} {s : Text} (h : Spells items s) :
    writeAll (separate (Query.layouts style items)) =
      separator.intercalate (items.filterMap (Query.itemText? fun q => write (q.layout style))) := by
  refine h.items_induction (motive := fun items => writeAll (separate (Query.layouts style items)) =
    separator.intercalate (items.filterMap (Query.itemText? fun q => write (q.layout style)))) ?_ ?_
  · intro q s hq
    rw [hq.separate_layouts, hjoins.last, List.filterMap_cons_some (hq.itemText? _),
      List.filterMap_nil, List.intercalate_singleton]
  · intro op first next later s u hfirst hlater _ ih
    rw [List.filterMap_cons_some (hlater.itemText? _)] at ih
    rw [layouts_cons, layouts_cons, layouts_cons, List.filterMap_cons_some (hfirst.itemText? _)]
    by_cases hop : op = .either
    · -- Blanks alone leave no item: there is just the break before the next condition.
      subst hop
      rw [separate_either hfirst.solid layout_either hlater.solid, hjoins.join, ← layouts_cons, ih,
        List.filterMap_cons_none rfl, List.filterMap_cons_some (hlater.itemText? _),
        List.intercalate_cons_cons, List.append_assoc]
    · -- The operator brings the break before it along.
      rw [layout_operator hop, separate_operator hfirst.solid rfl rfl hlater.solid,
        hjoins.operator, ← layouts_cons, ih,
        List.filterMap_cons_some (Query.itemText?_operator hop _),
        List.filterMap_cons_some (hlater.itemText? _), List.intercalate_cons_cons,
        List.intercalate_cons_cons, List.append_assoc, List.append_assoc]

end

/-! ## Formatted sequences -/

theorem not_fits_sequence {items : List Query} {style : Style} {width : Nat}
    (h : ¬ (((Query.sequence items).layout style).flatWidth Text.width ≤ width ∧
      ∀ s ∈ (Query.sequence items).captured, '\n' ∉ s)) :
    ¬ (Doc.decideFit Text.width width (.concat (Doc.separate (Query.layouts style items))) 0).fits := by
  have hhard : ((Query.sequence items).layout style).hasHardBreak = _ :=
    Query.hasHardBreak_layout_eq _
  rw [Query.layout, Doc.hasHardBreak] at hhard
  rw [Query.layout, Doc.flatWidth] at h
  intro hfits
  apply h
  simpa [Doc.decideFit, hhard] using hfits

theorem format_sequence_of_le {t : Text} {items : List Query} (h : parse t = .ok (.sequence items))
    {width : Nat} {style : Style}
    (hle : ((Query.sequence items).layout style).flatWidth Text.width ≤ width)
    (hplain : ∀ s ∈ (Query.sequence items).captured, '\n' ∉ s) :
    (Query.sequence items).format width style = List.intercalate " "
      (items.filterMap (Query.itemText? fun q => (q.layout style).flatText)) := by
  obtain ⟨-, -, s, hspells⟩ := (fits_of_parse h).spells
  have hline := (placed_of_parse h style).printPage_of_le rfl (isGrouped_of_parse h)
    ((Query.sequence items).hasHardBreak_layout hplain) hle
  calc (Query.sequence items).format width style
      = ((Query.sequence items).layout style).flatText := hline
    _ = Doc.flatTexts (Doc.separate (Query.layouts style items)) := by
      rw [Query.layout, Doc.flatText, Doc.flatText]
    _ = _ := hspells.joined Doc.joins_flatTexts

theorem format_sequence_of_not_fits {t : Text} {items : List Query}
    (h : parse t = .ok (.sequence items)) {width : Nat} {style : Style}
    (hfits : ¬ (Doc.decideFit Text.width width
      (.concat (Doc.separate (Query.layouts style items))) 0).fits) :
    (Query.sequence items).format width style = List.intercalate "\n"
      (items.filterMap (Query.itemText? fun q => (q.layout style).render width)) := by
  obtain ⟨-, -, s, hspells⟩ := (fits_of_parse h).spells
  rw [Query.format, Doc.render, Doc.printPage, Query.layout, Doc.print_group_text, if_neg hfits,
    Doc.print]
  exact hspells.joined (Doc.joins_printAll width)

/-- A sequence has spaces between its items where it fits, and new lines where it does not, with each
item laid out as if it were alone on the page. -/
theorem format_sequence_items {t : Text} {items : List Query} (h : parse t = .ok (.sequence items))
    (width : Nat) (style : Style) :
    (((Query.sequence items).layout style).flatWidth Text.width ≤ width ∧
        (∀ s ∈ (Query.sequence items).captured, '\n' ∉ s) →
      format width style t = .ok (List.intercalate " "
        (items.filterMap (Query.itemText? fun q => (q.layout style).flatText)))) ∧
    (¬ (((Query.sequence items).layout style).flatWidth Text.width ≤ width ∧
        ∀ s ∈ (Query.sequence items).captured, '\n' ∉ s) →
      format width style t = .ok (List.intercalate "\n"
        (items.filterMap (Query.itemText? fun q => (q.layout style).render width)))) := by
  rw [format_of_parse h]
  constructor
  · rintro ⟨hle, hplain⟩
    rw [format_sequence_of_le h hle hplain]
  · intro hbroken
    rw [format_sequence_of_not_fits h (not_fits_sequence hbroken)]

theorem format_sequence_items_nested :
    parse "a:(b OR c) d NOT e" = .ok (.sequence [.field "a" (.parenthesized (.sequence
      [.term "b", .operator .or, .term "c"])), .operator .either, .term "d", .operator .not,
      .term "e"]) ∧
    format 18 .compact "a:(b OR c) d NOT e" = .ok "a:(b OR c) d NOT e" ∧
    format 9 .compact "a:(b OR c) d NOT e" = .ok "a:(\n   b OR c\n   )\nd\nNOT\ne" := by
  have h : parse "a:(b OR c) d NOT e" = .ok (.sequence [.field "a" (.parenthesized (.sequence
      [.term "b", .operator .or, .term "c"])), .operator .either, .term "d", .operator .not,
      .term "e"]) := by decide +kernel
  refine ⟨h, ?_, ?_⟩
  · exact (format_sequence_items h 18 .compact).1 (by decide)
  · exact (format_sequence_items h 9 .compact).2 (by decide)

end SearchQuery
