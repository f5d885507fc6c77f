import SearchQuery.Proofs.Walk

/-! # Lists in the order of the text -/

namespace SearchQuery

/-! ## The stable order -/

section

variable {α : Type} {key : α → Nat}

/-- The items in ascending order of their keys. Items with one key stand as they were met. -/
structure StableOrder (key : α → Nat) (items sorted : List α) : Prop where
  perm : sorted.Perm items
  ascending : sorted.Pairwise (key · ≤ key ·)
  stable : ∀ k, sorted.filter (key · = k) = items.filter (key · = k)

theorem mem_of_filter_eq {items others : List α}
    (h : ∀ k, items.filter (key · = k) = others.filter (key · = k)) {x : α} (hx : x ∈ items) :
    x ∈ others := by
  have hmem : x ∈ items.filter (key · = key x) := List.mem_filter.mpr ⟨hx, by simp⟩
  rw [h] at hmem
  exact (List.mem_filter.mp hmem).1

theorem key_le_of_mem {first x : α} {later : List α}
    (h : (first :: later).Pairwise (key · ≤ key ·)) (hx : x ∈ first :: later) :
    key first ≤ key x := by
  rcases List.mem_cons.mp hx with rfl | hx
  · exact Nat.le_refl _
  · exact List.rel_of_pairwise_cons h hx

/-- Ascending lists that agree on the items of every key are the same. -/
theorem eq_of_ascending {items others : List α} (h : items.Pairwise (key · ≤ key ·))
    (h' : others.Pairwise (key · ≤ key ·))
    (hkeys : ∀ k, items.filter (key · = k) = others.filter (key · = k)) : items = others := by
  induction items generalizing others with
  | nil =>
    cases others with
    | nil => rfl
    | cons y ys =>
      have hy : y ∈ [] := mem_of_filter_eq (fun k => (hkeys k).symm) List.mem_cons_self
      simp at hy
  | cons x xs ih =>
    cases others with
    | nil =>
      have hx : x ∈ [] := mem_of_filter_eq hkeys List.mem_cons_self
      simp at hx
    | cons y ys =>
      -- Each of the two first items is among the other list's, so neither key is the larger one.
      have hyx : key y ≤ key x := key_le_of_mem h' (mem_of_filter_eq hkeys List.mem_cons_self)
      have hxy : key x ≤ key y :=
        key_le_of_mem h (mem_of_filter_eq (fun k => (hkeys k).symm) List.mem_cons_self)
      have hkey : key x = key y := Nat.le_antisymm hxy hyx
      have hfirst := hkeys (key x)
      rw [List.filter_cons_of_pos (by simp), List.filter_cons_of_pos (by simp [hkey])] at hfirst
      obtain rfl : x = y := (List.cons.inj hfirst).1
      rw [ih h.of_cons h'.of_cons]
      intro k
      have hk := hkeys k
      by_cases hx : key x = k
      · rw [List.filter_cons_of_pos (by simpa using hx),
          List.filter_cons_of_pos (by simpa using hx)] at hk
        exact (List.cons.inj hk).2
      · rwa [List.filter_cons_of_neg (by simpa using hx),
          List.filter_cons_of_neg (by simpa using hx)] at hk

theorem StableOrder.unique {items sorted sorted' : List α} (h : StableOrder key items sorted)
    (h' : StableOrder key items sorted') : sorted' = sorted :=
  eq_of_ascending h'.ascending h.ascending fun k => (h'.stable k).trans (h.stable k).symm

theorem StableOrder.of_perm {items items' sorted : List α} (h : StableOrder key items sorted)
    (hperm : items'.Perm items) (hdistinct : items.Pairwise (key · ≠ key ·)) :
    StableOrder key items' sorted := by
  refine ⟨h.perm.trans hperm.symm, h.ascending, ?_⟩
  intro k
  rw [h.stable k]
  -- At most one item has the key, and a list of at most one item has one order.
  have hsame : (items'.filter (key · = k)).Perm (items.filter (key · = k)) := hperm.filter _
  have hpair : (items.filter (key · = k)).Pairwise (key · ≠ key ·) := hdistinct.filter _
  cases hitems : items.filter (key · = k) with
  | nil =>
    rw [hitems] at hsame
    exact hsame.eq_nil.symm
  | cons x xs =>
    cases xs with
    | nil =>
      rw [hitems] at hsame
      exact hsame.eq_singleton.symm
    | cons y ys =>
      have hkey : ∀ z ∈ x :: y :: ys, key z = k := by
        intro z hz
        rw [← hitems] at hz
        simpa using (List.mem_filter.mp hz).2
      have hx : key x = k := hkey x List.mem_cons_self
      have hy : key y = k := hkey y (List.mem_cons_of_mem x List.mem_cons_self)
      rw [hitems] at hpair
      exact absurd (hx.trans hy.symm) (List.rel_of_pairwise_cons hpair List.mem_cons_self)

end

/-! ## Sorting is stable -/

section

variable {α : Type}

theorem filter_insertByOffset (item : Nat × α) (items : List (Nat × α)) (k : Nat) :
    (insertByOffset item items).filter (·.1 = k) = (item :: items).filter (·.1 = k) := by
  induction items with
  | nil => rfl
  | cons other later ih =>
    rw [insertByOffset]
    split
    · rfl
    · rename_i hlt
      by_cases hk : other.1 = k
      · have hitem : item.1 ≠ k := by omega
        rw [List.filter_cons_of_pos (by simpa using hk), ih]
        simp [hk, hitem]
      · rw [List.filter_cons_of_neg (by simpa using hk), ih]
        simp [List.filter_cons, hk]

theorem sortByOffset_stableOrder (items : List (Nat × α)) :
    StableOrder Prod.fst items (sortByOffset items) := by
  refine ⟨sortByOffset_perm items, sortByOffset_sorted items, ?_⟩
  intro k
  induction items with
  | nil => rfl
  | cons item later ih =>
    rw [sortByOffset, filter_insertByOffset, List.filter_cons, ih, List.filter_cons]

theorem StableOrder.sortByOffset_map {β : Type} {key : β → Nat} {items sorted : List β}
    (h : StableOrder key items sorted) (f : β → α) :
    sortByOffset (items.map fun x => (key x, f x)) = sorted.map fun x => (key x, f x) := by
  refine eq_of_ascending (sortByOffset_sorted _) (List.pairwise_map.mpr h.ascending) ?_
  intro k
  rw [(sortByOffset_stableOrder _).stable k, List.filter_map, List.filter_map]
  exact congrArg (List.map _) (h.stable k).symm

theorem exists_stableOrder (key : α → Nat) (items : List α) :
    ∃ sorted, StableOrder key items sorted := by
  let keyed : α → Nat × α := fun x => (key x, x)
  obtain ⟨hperm, hascending, hstable⟩ := sortByOffset_stableOrder (items.map keyed)
  -- Every sorted pair is an item with its own key, so the keys can be left out and put back.
  have hkeyed : ∀ p ∈ sortByOffset (items.map keyed), keyed p.2 = p := by
    intro p hp
    obtain ⟨x, -, rfl⟩ := List.mem_map.mp (hperm.mem_iff.mp hp)
    rfl
  obtain ⟨sorted, hsorted⟩ : ∃ sorted : List α, sortByOffset (items.map keyed) = sorted.map keyed := by
    refine ⟨(sortByOffset (items.map keyed)).map Prod.snd, ?_⟩
    rw [List.map_map]
    exact ((List.map_congr_left hkeyed).trans (List.map_id' _)).symm
  rw [hsorted] at hperm hascending hstable
  rw [List.pairwise_map] at hascending
  refine ⟨sorted, ?_, hascending, ?_⟩
  · have hitems := hperm.map Prod.snd
    rw [List.map_map, List.map_map] at hitems
    simpa [keyed, Function.comp_def] using hitems
  · intro k
    have hk := hstable k
    rw [List.filter_map, List.filter_map] at hk
    have hitems := congrArg (List.map Prod.snd) hk
    simpa [keyed, Function.comp_def] using hitems

end

/-! ## The nodes of a list -/

namespace Tree

/-- The nodes that the parts of a list hold: an iteration its children, any other part itself. -/
def contributed (parts : List Tree) : List Tree :=
  parts.flatMap fun part => if part.rule = .iteration then part.children else [part]

theorem contributions_eq_map (parts : List Tree) :
    contributions parts = (contributed parts).map fun t => (t.offset, t.walk) := by
  induction parts with
  | nil => rfl
  | cons part later ih =>
    by_cases h : part.rule = .iteration
    · obtain ⟨rule, offset, source, children⟩ := part
      obtain rfl : rule = .iteration := h
      rw [contributions, walkEach_eq_map, ih]
      simp [contributed]
    · rw [contributions_cons h, ih]
      simp [contributed, h]

theorem result_all_walks (nodes : List Tree) :
    (Walk.all (nodes.map walk)).result = nodes.mapM toQuery := by
  induction nodes with
  | nil => rfl
  | cons node later ih =>
    rw [List.map_cons, Walk.all, List.mapM_cons]
    simp only [Walk.result_bind, Walk.result_pure, ih]
    rfl

theorem map_toQuery_of_mapM {nodes : List Tree} {items : List Query}
    (h : nodes.mapM toQuery = .ok items) : nodes.map toQuery = items.map .ok := by
  induction nodes generalizing items with
  | nil =>
    obtain rfl : [] = items := Except.ok.inj h
    rfl
  | cons node later ih =>
    rw [List.mapM_cons] at h
    cases hnode : node.toQuery with
    | error missing => simp [hnode, bind, Except.bind] at h
    | ok q =>
      cases hlater : later.mapM toQuery with
      | error missing => simp [hnode, hlater, bind, Except.bind] at h
      | ok qs =>
        obtain rfl : q :: qs = items := by
          simpa [hnode, hlater, bind, Except.bind, pure, Except.pure] using h
        rw [List.map_cons, List.map_cons, hnode, ih hlater]

theorem length_of_mapM {nodes : List Tree} {items : List Query}
    (h : nodes.mapM toQuery = .ok items) : items.length = nodes.length := by
  have hlength := congrArg List.length (map_toQuery_of_mapM h)
  rw [List.length_map, List.length_map] at hlength
  exact hlength.symm

theorem ofItems?_of_two_le {items : List Query} (h : 2 ≤ items.length) :
    Query.ofItems? items = some (.sequence items) := by
  match items with
  | [] | [_] => simp at h
  | _ :: _ :: _ => rfl

/-- What nodes stand for, one after the other: one node for what it stands for itself, more of them
for a sequence, and none for nothing. The first that has no meaning is the one that is reported. -/
def inTurn (list : NodeRef) : List Tree → Except NodeRef Query
  | [] => .error list
  | [node] => node.toQuery
  | nodes => (nodes.mapM toQuery).map .sequence

theorem inTurn_of_two_le {nodes : List Tree} (h : 2 ≤ nodes.length) (list : NodeRef) :
    inTurn list nodes = (nodes.mapM toQuery).map .sequence := by
  match nodes with
  | [] | [_] => simp at h
  | _ :: _ :: _ => rfl

theorem inTurn_eq (list : NodeRef) (nodes : List Tree) :
    inTurn list nodes =
      (nodes.mapM toQuery).bind fun items => (Walk.ofOption list (Query.ofItems? items)).result := by
  by_cases htwo : 2 ≤ nodes.length
  · rw [inTurn_of_two_le htwo]
    cases hall : nodes.mapM toQuery with
    | error missing => rfl
    | ok items =>
      rw [Except.ok_bind, ofItems?_of_two_le (by rw [length_of_mapM hall]; exact htwo)]
      rfl
  · match nodes with
    | [] => rfl
    | [node] =>
      rw [inTurn, List.mapM_cons]
      cases node.toQuery with
      | error missing => rfl
      | ok q => rfl
    | _ :: _ :: _ => simp at htwo

/-- A list stands for what its nodes stand for in their stable order. -/
theorem toQuery_list_eq {parts sorted : List Tree}
    (h : StableOrder Tree.offset (contributed parts) sorted) (offset : Nat) (source : Text) :
    toQuery ⟨.list, offset, source, parts⟩ = inTurn ⟨.list, offset⟩ sorted := by
  have hsorted : (sortByOffset (contributions parts)).map Prod.snd = sorted.map walk := by
    rw [contributions_eq_map, h.sortByOffset_map walk, List.map_map]
    rfl
  simp only [toQuery, walk, hsorted, Walk.result_bind, Walk.result_visit, Except.ok_bind,
    result_all_walks]
  exact (inTurn_eq _ sorted).symm

/-- A list stands for what its nodes give in the one stable order of their offsets. So nodes with
different offsets can come in any order and any division. -/
theorem toQuery_list_by_offset (offset : Nat) (source : Text) (parts : List Tree) :
    (∀ source' parts', (contributed parts').Perm (contributed parts) →
      (contributed parts).Pairwise (·.offset ≠ ·.offset) →
      toQuery ⟨.list, offset, source', parts'⟩ = toQuery ⟨.list, offset, source, parts⟩) ∧
    (∃ sorted, StableOrder Tree.offset (contributed parts) sorted ∧
      (∀ other, StableOrder Tree.offset (contributed parts) other → other = sorted) ∧
      toQuery ⟨.list, offset, source, parts⟩ = inTurn ⟨.list, offset⟩ sorted) ∧
    ∀ q, 2 ≤ (contributed parts).length → toQuery ⟨.list, offset, source, parts⟩ = .ok q →
      ∃ items, q = .sequence items ∧ items.length = (contributed parts).length := by
  obtain ⟨sorted, hsorted⟩ := exists_stableOrder Tree.offset (contributed parts)
  have hquery := toQuery_list_eq hsorted offset source
  refine ⟨?_, ⟨sorted, hsorted, fun other hother => hsorted.unique hother, hquery⟩, ?_⟩
  · intro source' parts' hperm hdistinct
    rw [hquery, toQuery_list_eq (hsorted.of_perm hperm hdistinct)]
  · intro q htwo hq
    rw [← hsorted.perm.length_eq] at htwo ⊢
    rw [hquery, inTurn_of_two_le htwo] at hq
    cases hall : sorted.mapM toQuery with
    | error missing => simp [hall, Except.map] at hq
    | ok items =>
      obtain rfl : .sequence items = q := by simpa [hall, Except.map] using hq
      exact ⟨items, rfl, length_of_mapM hall⟩

theorem toQuery_list_by_offset_divided :
    (contributed [⟨.iteration, 0, [], [⟨.spaces, 5, " ", []⟩, ⟨.boolOperator, 3, "XOR", []⟩]⟩]).Perm
      (contributed [⟨.boolOperator, 3, "XOR", []⟩, ⟨.spaces, 5, " ", []⟩]) ∧
    (contributed [⟨.boolOperator, 3, "XOR", []⟩, ⟨.spaces, 5, " ", []⟩]).Pairwise
      (·.offset ≠ ·.offset) ∧
    toQuery ⟨.list, 3, "XOR ",
        [⟨.iteration, 0, [], [⟨.spaces, 5, " ", []⟩, ⟨.boolOperator, 3, "XOR", []⟩]⟩]⟩ =
      toQuery ⟨.list, 3, "XOR ", [⟨.boolOperator, 3, "XOR", []⟩, ⟨.spaces, 5, " ", []⟩]⟩ ∧
    toQuery ⟨.list, 3, "XOR ", [⟨.boolOperator, 3, "XOR", []⟩, ⟨.spaces, 5, " ", []⟩]⟩ =
      .error ⟨.boolOperator, 3⟩ := by
  have hperm : (contributed [⟨.iteration, 0, [],
      [⟨.spaces, 5, " ", []⟩, ⟨.boolOperator, 3, "XOR", []⟩]⟩]).Perm
      (contributed [⟨.boolOperator, 3, "XOR", []⟩, ⟨.spaces, 5, " ", []⟩]) :=
    List.Perm.swap _ _ []
  have hdistinct : (contributed [⟨.boolOperator, 3, "XOR", []⟩, ⟨.spaces, 5, " ", []⟩]).Pairwise
      (·.offset ≠ ·.offset) := by simp [contributed]
  exact ⟨hperm, hdistinct,
    (toQuery_list_by_offset 3 "XOR " _).1 "XOR " _ hperm hdistinct, rfl⟩

end Tree

end SearchQuery
