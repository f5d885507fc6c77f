import SearchQuery.Proofs.Viable

/-! # Where mismatches point to -/

namespace SearchQuery

/-- The mismatch is what the attempts of a run over the text come to. -/
structure Mismatch.Reports (m : Mismatch) (t : Text) (attempts : List Attempt) : Prop where
  source : m.source = t
  furthest : ∀ a ∈ attempts, a.offset ≤ m.offset
  reached : ∃ a ∈ attempts, a.offset = m.offset
  /-- What was tried there, each thing once and in the order of the first attempts. -/
  expected : m.expected =
    ((attempts.filter (·.offset = m.offset)).map Attempt.expected).eraseDups
  expected_ne_nil : m.expected ≠ []
  inside : m.offset ≤ t.byteSize
  boundary : t.IsBoundary m.offset

theorem Text.IsBoundary.le_byteSize {t : Text} {offset : Nat} (h : t.IsBoundary offset) :
    offset ≤ t.byteSize := by
  obtain ⟨before, after, rfl, rfl⟩ := h
  rw [byteSize_append]
  exact Nat.le_add_right ..

theorem parseTree_error {t : Text} {m : Mismatch} (h : parseTree t = .error m) :
    (Grammar.query (Cursor.start t)).result = none ∧
      m = ⟨t, (Furthest.ofAttempts (Grammar.query (Cursor.start t)).attempts).offset,
        (Furthest.ofAttempts (Grammar.query (Cursor.start t)).attempts).expected⟩ := by
  rw [parseTree] at h
  split at h
  · simp at h
  · rename_i attempts hquery
    rw [hquery]
    exact ⟨rfl, (Except.error.inj h).symm⟩

theorem exists_tree_of_parse {t : Text} {q : Query} (h : parse t = .ok q) :
    ∃ tree, parseTree t = .ok tree := by
  cases htree : parseTree t with
  | ok tree => exact ⟨tree, rfl⟩
  | error m =>
    rw [parse_of_error htree] at h
    cases h

theorem exists_viable_of_error {t : Text} {m : Mismatch} (h : parseTree t = .error m) :
    ∃ before after, t = before ++ after ∧ before.byteSize = m.offset ∧
      ∃ u q, parse (before ++ u) = .ok q := by
  obtain ⟨hnone, rfl⟩ := parseTree_error h
  obtain ⟨a, ha, hoff⟩ := (Furthest.records_ofAttempts _).reached (Grammar.query_blames _ hnone)
  obtain ⟨before, c, ⟨hrest, hoff'⟩, hat, hviable⟩ := Grammar.query_after _ a ha
  refine ⟨before, c.rest, hrest, ?_, hviable⟩
  simp only [Cursor.start, Nat.zero_add] at hoff'
  rw [← hoff, hat, hoff']

theorem parseTree_reports_furthest {t : Text} {m : Mismatch} (h : parseTree t = .error m) :
    m.Reports t (Grammar.query (Cursor.start t)).attempts := by
  obtain ⟨before, after, ht, hoff, -⟩ := exists_viable_of_error h
  have hboundary : t.IsBoundary m.offset := ⟨before, after, ht, hoff⟩
  obtain ⟨hnone, rfl⟩ := parseTree_error h
  have hrecords := Furthest.records_ofAttempts (Grammar.query (Cursor.start t)).attempts
  obtain ⟨a, ha, hat⟩ := hrecords.reached (Grammar.query_blames _ hnone)
  refine ⟨rfl, hrecords.furthest, ⟨a, ha, hat⟩, hrecords.expected, ?_, hboundary.le_byteSize,
    hboundary⟩
  -- What was tried by that attempt is in the list.
  have hmem : a.expected ∈
      (Furthest.ofAttempts (Grammar.query (Cursor.start t)).attempts).expected := by
    rw [hrecords.expected, List.mem_eraseDups]
    exact List.mem_map_of_mem (List.mem_filter.mpr ⟨ha, by simpa using hat⟩)
  exact List.ne_nil_of_mem hmem

/-- The parenthesis is read twice, behind the operator and behind a term `OR`, and what is missing
in it is named once. -/
theorem parseTree_reports_furthest_unclosed :
    parseTree "é OR (" = .error ⟨"é OR (", 7, [.literal "(", .literal "NOT", .literal "-",
      .literal "+", .described "a term", .literal "\""]⟩ ∧
    (⟨"é OR (", 7, [.literal "(", .literal "NOT", .literal "-", .literal "+", .described "a term",
      .literal "\""]⟩ : Mismatch).Reports "é OR ("
        (Grammar.query (Cursor.start "é OR (")).attempts := by
  have h : parseTree "é OR (" = .error ⟨"é OR (", 7, [.literal "(", .literal "NOT", .literal "-",
      .literal "+", .described "a term", .literal "\""]⟩ := by decide +kernel
  exact ⟨h, parseTree_reports_furthest h⟩

/-- The text before the place of a mismatch can be completed to one that has a tree. -/
theorem parseTree_mismatch_viable {t : Text} {m : Mismatch} (h : parseTree t = .error m) :
    ∃ before after, t = before ++ after ∧ before.byteSize = m.offset ∧
      ∃ u tree, parseTree (before ++ u) = .ok tree := by
  obtain ⟨before, after, ht, hoff, u, q, hq⟩ := exists_viable_of_error h
  exact ⟨before, after, ht, hoff, u, exists_tree_of_parse hq⟩

theorem parseTree_mismatch_viable_backslash :
    parseTree "(a OR \"b\\" = .error ⟨"(a OR \"b\\", 9, [.literal "\""]⟩ ∧
    ∃ before after : Text, "(a OR \"b\\" = before ++ after ∧ before.byteSize = 9 ∧
      ∃ u tree, parseTree (before ++ u) = .ok tree := by
  have h : parseTree "(a OR \"b\\" = .error ⟨"(a OR \"b\\", 9, [.literal "\""]⟩ := by decide +kernel
  exact ⟨h, parseTree_mismatch_viable h⟩

end SearchQuery
