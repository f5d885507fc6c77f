import SearchQuery.Proofs.Recognition
import SearchQuery.Proofs.Walk

/-! # Parse trees lose nothing

The two iterations of a list stand side by side when they are put back in turn.
-/

namespace SearchQuery

namespace Tree

/-! ## Nodes and what they cover -/

/-- The tree has this node, at its root or further down. -/
inductive Has (tree : Tree) : Tree → Prop
  | root : Has tree tree
  | child {node part : Tree} (h : Has tree node) (hpart : part ∈ node.children) : Has tree part

/-- The trees stand side by side, from the first offset to the second. -/
def Tile : Nat → List Tree → Nat → Prop
  | start, [], stop => start = stop
  | start, part :: later, stop => part.offset = start ∧ Tile part.stop later stop

/-- The node reaches from the first of its children to the last, and without children it stands
empty at the given offset. -/
structure SpansChildren (node : Tree) (position : Nat) : Prop where
  first : ∀ part ∈ node.children.head?, node.offset = part.offset
  last : ∀ part ∈ node.children.getLast?, node.stop = part.stop
  empty : node.children = [] → node.offset = position ∧ node.source = []

/-- How the children of a node stand in it. -/
structure Regular (node : Tree) : Prop where
  tile : node.children ≠ [] → node.rule ≠ .list → node.rule ≠ .iteration →
    Tile node.offset node.children node.stop
  list : node.rule = .list → ∃ first separators conditions,
    node.children = [first, separators, conditions] ∧ first.rule ≠ .iteration ∧
    separators.rule = .iteration ∧ conditions.rule = .iteration ∧
    separators.children.length = conditions.children.length ∧
    Tile node.offset (first :: alternate (separators.children.zip conditions.children)) node.stop ∧
    separators.SpansChildren first.stop ∧ conditions.SpansChildren first.stop
  /-- Iterations stand in lists only. -/
  iteration : ∀ part ∈ node.children, part.rule = .iteration → node.rule = .list

/-- The tree holds all of the text, and every node of it the part from its offset to its end. -/
structure Lossless (t : Text) (tree : Tree) : Prop where
  root : tree.rule = .query ∧ tree.offset = 0 ∧ tree.source = t
  source {node : Tree} : tree.Has node → node.source = t.slice node.offset node.stop
  boundaries {node : Tree} : tree.Has node → t.IsBoundary node.offset ∧ t.IsBoundary node.stop
  regular {node : Tree} : tree.Has node → node.Regular

theorem has_cases {tree node : Tree} (h : tree.Has node) :
    node = tree ∨ ∃ part ∈ tree.children, part.Has node := by
  induction h with
  | root => exact .inl rfl
  | child _ hpart ih =>
    rcases ih with rfl | ⟨top, htop, hnode⟩
    · exact .inr ⟨_, hpart, .root⟩
    · exact .inr ⟨top, htop, .child hnode hpart⟩

/-! ## Trees between cursors -/

/-- The node covers the text between the two cursors. -/
structure Stands (node : Tree) (c c' : Cursor) : Prop where
  offset : node.offset = c.offset
  passes : c.Passes node.source c'

theorem Stands.stop {node : Tree} {c c' : Cursor} (h : node.Stands c c') :
    node.stop = c'.offset := by
  rw [Tree.stop, h.offset, h.passes.2]

/-- Every node of the tree covers some text behind the cursor, and its children stand in it as they
should. -/
def Sound (c : Cursor) (tree : Tree) : Prop := ∀ node, tree.Has node →
  (∃ c₁ c₂, c.Reaches c₁ ∧ node.Stands c₁ c₂) ∧ node.Regular

theorem Sound.of_reaches {c c' : Cursor} {tree : Tree} (h : tree.Sound c') (hr : c.Reaches c') :
    tree.Sound c := by
  intro node hnode
  obtain ⟨⟨c₁, c₂, hc, hstands⟩, hregular⟩ := h node hnode
  exact ⟨⟨c₁, c₂, hr.trans hc, hstands⟩, hregular⟩

theorem sound_of_children {c c₁ c₂ : Cursor} {tree : Tree} (hr : c.Reaches c₁)
    (hstands : tree.Stands c₁ c₂) (hregular : tree.Regular)
    (hparts : ∀ part ∈ tree.children, part.Sound c) : tree.Sound c := by
  intro node hnode
  rcases has_cases hnode with rfl | ⟨part, hpart, hnode⟩
  · exact ⟨⟨c₁, c₂, hr, hstands⟩, hregular⟩
  · exact hparts part hpart node hnode

/-- The tree covers the text between the two cursors, and so do all of its nodes for their parts. -/
structure Covers (tree : Tree) (c c' : Cursor) : Prop where
  stands : tree.Stands c c'
  rule : tree.rule ≠ .iteration
  sound : tree.Sound c

/-- The trees cover the text between the two cursors one after the other. -/
def CoverAll : Cursor → List Tree → Cursor → Prop
  | c, [], c' => c = c'
  | c, tree :: later, c' => ∃ c₁, tree.Covers c c₁ ∧ CoverAll c₁ later c'

theorem coverAll_append {c c' c'' : Cursor} {trees later : List Tree} (h : CoverAll c trees c')
    (hlater : CoverAll c' later c'') : CoverAll c (trees ++ later) c'' := by
  induction trees generalizing c with
  | nil =>
    obtain rfl := h
    exact hlater
  | cons tree trees ih =>
    obtain ⟨c₁, hc, hrest⟩ := h
    exact ⟨c₁, hc, ih hrest⟩

theorem CoverAll.tile {c c' : Cursor} {trees : List Tree} (h : CoverAll c trees c') :
    Tile c.offset trees c'.offset := by
  induction trees generalizing c with
  | nil =>
    obtain rfl := h
    rfl
  | cons tree trees ih =>
    obtain ⟨c₁, hc, hrest⟩ := h
    refine ⟨hc.stands.offset, ?_⟩
    rw [hc.stands.stop]
    exact ih hrest

/-- The trees cover parts of the text between the two cursors, in their order. -/
def CoverInOrder : Cursor → List Tree → Cursor → Prop
  | c, [], c' => c.Reaches c'
  | c, tree :: later, c' => ∃ c₁ c₂, c.Reaches c₁ ∧ tree.Covers c₁ c₂ ∧ CoverInOrder c₂ later c'

theorem CoverInOrder.of_reaches {c₀ c c' : Cursor} {trees : List Tree}
    (h : CoverInOrder c trees c') (hr : c₀.Reaches c) : CoverInOrder c₀ trees c' := by
  cases trees with
  | nil => exact hr.trans h
  | cons tree trees =>
    obtain ⟨c₁, c₂, hc, hrest⟩ := h
    exact ⟨c₁, c₂, hr.trans hc, hrest⟩

theorem CoverAll.inOrder {c c' : Cursor} {trees : List Tree} (h : CoverAll c trees c') :
    CoverInOrder c trees c' := by
  induction trees generalizing c with
  | nil =>
    obtain rfl := h
    exact c.reaches_refl
  | cons tree trees ih =>
    obtain ⟨c₁, hc, hrest⟩ := h
    exact ⟨c, c₁, c.reaches_refl, hc, ih hrest⟩

theorem CoverInOrder.reaches {c c' : Cursor} {trees : List Tree} (h : CoverInOrder c trees c') :
    c.Reaches c' := by
  induction trees generalizing c with
  | nil => exact h
  | cons tree trees ih =>
    obtain ⟨c₁, c₂, hr, hc, hrest⟩ := h
    exact hr.trans (hc.stands.passes.reaches.trans (ih hrest))

theorem CoverInOrder.sound {c c' : Cursor} {trees : List Tree} (h : CoverInOrder c trees c') :
    ∀ tree ∈ trees, tree.rule ≠ .iteration ∧ tree.Sound c := by
  induction trees generalizing c with
  | nil => simp
  | cons tree trees ih =>
    obtain ⟨c₁, c₂, hr, hc, hrest⟩ := h
    intro part hpart
    rcases List.mem_cons.mp hpart with rfl | hpart
    · exact ⟨hc.rule, hc.sound.of_reaches hr⟩
    · obtain ⟨hrule, hsound⟩ := ih hrest part hpart
      exact ⟨hrule, hsound.of_reaches (hr.trans hc.stands.passes.reaches)⟩

theorem CoverInOrder.ends {c c' : Cursor} {tree : Tree} {trees : List Tree}
    (h : CoverInOrder c (tree :: trees) c') : ∃ c₁ c₂, c.Reaches c₁ ∧ c₁.Reaches c₂ ∧
      tree.offset = c₁.offset ∧ ∀ last ∈ (tree :: trees).getLast?, last.stop = c₂.offset := by
  induction trees generalizing c tree with
  | nil =>
    obtain ⟨c₁, c₂, hr, hc, -⟩ := h
    refine ⟨c₁, c₂, hr, hc.stands.passes.reaches, hc.stands.offset, ?_⟩
    simpa using hc.stands.stop
  | cons next trees ih =>
    obtain ⟨c₁, c₂, hr, hc, hrest⟩ := h
    obtain ⟨c₃, c₄, hr', hr'', -, hlast⟩ := ih hrest
    refine ⟨c₁, c₄, hr, ?_, hc.stands.offset, by simpa using hlast⟩
    exact hc.stands.passes.reaches.trans (hr'.trans hr'')

/-! ## Iterations -/

theorem CoverAll.inOrder_halves {c c' : Cursor} {pairs : List (Tree × Tree)}
    (h : CoverAll c (alternate pairs) c') :
    CoverInOrder c (pairs.map Prod.fst) c' ∧ CoverInOrder c (pairs.map Prod.snd) c' := by
  induction pairs generalizing c with
  | nil => exact ⟨h.inOrder, h.inOrder⟩
  | cons p pairs ih =>
    obtain ⟨c₁, hfirst, c₂, hsecond, hrest⟩ := h
    obtain ⟨hfirsts, hseconds⟩ := ih hrest
    refine ⟨⟨c, c₁, c.reaches_refl, hfirst, ?_⟩, ?_⟩
    · exact hfirsts.of_reaches hsecond.stands.passes.reaches
    · exact ⟨c₁, c₂, hfirst.stands.passes.reaches, hsecond, hseconds⟩

theorem iteration_spans {c c' : Cursor} {trees : List Tree} (h : CoverInOrder c trees c') :
    (Grammar.iteration c trees).SpansChildren c.offset ∧ (Grammar.iteration c trees).Sound c := by
  have hregular : (Grammar.iteration c trees).Regular :=
    ⟨fun _ _ hrule => absurd rfl hrule, nofun, fun part hpart hrule =>
      absurd hrule (h.sound part hpart).1⟩
  have hparts : ∀ part ∈ (Grammar.iteration c trees).children, part.Sound c :=
    fun part hpart => (h.sound part hpart).2
  cases trees with
  | nil =>
    have hslice : c.slice c.offset c.offset = [] := Cursor.slice_passes c.reaches_refl c.passes_nil
    have hstands : (Grammar.iteration c []).Stands c c := ⟨rfl, by
      simpa [Grammar.iteration, hslice] using c.passes_nil⟩
    refine ⟨⟨by simp [Grammar.iteration], by simp [Grammar.iteration], fun _ => ⟨rfl, hslice⟩⟩, ?_⟩
    exact sound_of_children c.reaches_refl hstands hregular hparts
  | cons tree trees =>
    obtain ⟨c₁, c₂, hr, ⟨s, hs⟩, hoff, hlast⟩ := h.ends
    obtain ⟨last, hmem⟩ : ∃ last, (tree :: trees).getLast? = some last :=
      ⟨_, List.getLast?_eq_some_getLast (by simp)⟩
    have hslice : c.slice c₁.offset c₂.offset = s := Cursor.slice_passes hr hs
    have hiteration : Grammar.iteration c (tree :: trees) =
        ⟨.iteration, c₁.offset, s, tree :: trees⟩ := by
      simp only [Grammar.iteration, List.head?_cons, hmem, Option.map_some, Option.getD_some, hoff,
        hlast last hmem, hslice]
    have hstands : (Grammar.iteration c (tree :: trees)).Stands c₁ c₂ := by
      rw [hiteration]
      exact ⟨rfl, hs⟩
    refine ⟨⟨?_, ?_, by simp [Grammar.iteration]⟩, sound_of_children hr hstands hregular hparts⟩
    · rintro part hpart
      obtain rfl : tree = part := by simpa [Grammar.iteration] using hpart
      rw [hstands.offset, hoff]
    · intro part hpart
      rw [hstands.stop]
      exact (hlast part hpart).symm

end Tree

/-! ## Readers of trees -/

namespace Reader

open SearchQuery.Tree

/-- What is read covers the text that was taken. -/
def Lays (read : Reader Tree) : Prop :=
  ∀ c tree c', (read c).result = some (tree, c') → tree.Covers c c'

/-- Behind trees that stand side by side, the reader gives them back with others that go on from
there. -/
def Completes (done : List Tree) (read : Reader (List Tree)) : Prop :=
  ∀ c₀ c trees c', CoverAll c₀ done c → (read c).result = some (trees, c') → CoverAll c₀ trees c'

theorem completes_pure (done : List Tree) : Completes done (pure done) := by
  intro c₀ c trees c' hdone h
  simp only [result_pure, Option.some.injEq, Prod.mk.injEq] at h
  obtain ⟨rfl, rfl⟩ := h
  exact hdone

theorem Lays.bind {read : Reader Tree} {next : Tree → Reader (List Tree)} {done : List Tree}
    (h : Lays read) (hnext : ∀ tree, Completes (done ++ [tree]) (next tree)) :
    Completes done (read >>= next) := by
  intro c₀ c trees c' hdone hread
  simp only [result_bind, Option.bind_eq_some_iff] at hread
  obtain ⟨⟨tree, c₁⟩, htree, hread⟩ := hread
  exact hnext tree c₀ c₁ trees c' (coverAll_append hdone ⟨c₁, h c tree c₁ htree, rfl⟩) hread

theorem Completes.node {children : Reader (List Tree)} {rule : Rule} (h : Completes [] children)
    (hlist : rule ≠ .list) (hiteration : rule ≠ .iteration) : Lays (node rule children) := by
  intro c tree c' htree
  simp only [result_node, Option.map_eq_some_iff] at htree
  obtain ⟨⟨trees, c₁⟩, hread, heq⟩ := htree
  obtain ⟨rfl, rfl⟩ := Prod.mk.inj heq
  have hall : CoverAll c trees c₁ := h c c trees c₁ rfl hread
  obtain ⟨s, hs⟩ := hall.inOrder.reaches
  rw [Cursor.slice_passes c.reaches_refl hs]
  have hstands : Stands ⟨rule, c.offset, s, trees⟩ c c₁ := ⟨rfl, hs⟩
  refine ⟨hstands, hiteration, sound_of_children c.reaches_refl hstands ?_ ?_⟩
  · refine ⟨fun _ _ _ => ?_, fun hrule => absurd hrule hlist, fun part hpart hrule =>
      absurd hrule (hall.inOrder.sound part hpart).1⟩
    rw [hstands.stop]
    exact hall.tile
  · exact fun part hpart => (hall.inOrder.sound part hpart).2

theorem Takes.lays {read : Reader Tree} {rule : Rule} {take : Text → Option Text}
    (h : read.Takes rule take) (hlist : rule ≠ .list) (hiteration : rule ≠ .iteration) :
    Lays read := by
  intro c tree c' htree
  rw [h.result] at htree
  obtain ⟨s, hs, heq⟩ := Option.map_eq_some_iff.mp htree
  obtain ⟨rfl, rfl⟩ := Prod.mk.inj heq
  have hstands : Stands ⟨rule, c.offset, s, []⟩ c (c.past s) :=
    ⟨rfl, Cursor.passes_past (h.front hs)⟩
  refine ⟨hstands, hiteration, sound_of_children c.reaches_refl hstands ?_ (by simp)⟩
  exact ⟨fun hne => absurd rfl hne, fun hrule => absurd hrule hlist, by simp⟩

theorem lays_firstOf {reads : List (Reader Tree)} (h : ∀ read ∈ reads, Lays read) :
    Lays (firstOf reads) := by
  induction reads with
  | nil =>
    intro c tree c' htree
    simp at htree
  | cons read others ih =>
    intro c tree c' htree
    simp only [result_firstOf_cons, Option.or_eq_some_iff] at htree
    rcases htree with htree | ⟨-, htree⟩
    · exact h read (by simp) c tree c' htree
    · exact ih (fun r hr => h r (by simp [hr])) c tree c' htree

/-- Pairs that are read again and again stand side by side. -/
theorem coverAll_many {read : Reader (Tree × Tree)}
    (h : ∀ c p c', (read c).result = some (p, c') → CoverAll c [p.1, p.2] c') {c c' : Cursor}
    {pairs : List (Tree × Tree)} (hpairs : (many read c).result = some (pairs, c')) :
    CoverAll c (alternate pairs) c' := by
  -- The induction is on the text that is left.
  induction hn : c.rest.length using Nat.strongRecOn generalizing c pairs with
  | _ n ih =>
    rw [result_many] at hpairs
    split at hpairs
    · simp only [Option.some.injEq, Prod.mk.injEq] at hpairs
      obtain ⟨rfl, rfl⟩ := hpairs
      rfl
    · rename_i p c₁ hp
      split at hpairs
      · rename_i hlt
        obtain ⟨⟨later, c₂⟩, hmany, heq⟩ := Option.map_eq_some_iff.mp hpairs
        simp only [Prod.mk.injEq] at heq
        obtain ⟨rfl, rfl⟩ := heq
        exact coverAll_append (h c p c₁ hp) (ih _ (hn ▸ hlt) hmany rfl)
      · simp only [Option.some.injEq, Prod.mk.injEq] at hpairs
        obtain ⟨rfl, rfl⟩ := hpairs
        exact h c p c₁ hp

end Reader

/-! ## Productions -/

namespace Grammar

open Reader Token SearchQuery.Tree

theorem spaces_lays : Lays spaces := spaces_takes.lays (by simp) (by simp)

theorem literal_lays (token : Text) : Lays (literal token) :=
  (literal_takes token).lays (by simp) (by simp)

theorem word_lays : Lays word := word_takes.lays (by simp) (by simp)

theorem spacedOperator_lays : Lays spacedOperator := by
  refine Completes.node ?_ (by simp) (by simp)
  refine spaces_lays.bind fun _ => (boolOperator_takes.lays (by simp) (by simp)).bind fun _ => ?_
  exact spaces_lays.bind fun _ => completes_pure _

theorem rangeCondition_lays : Lays rangeCondition := by
  refine Completes.node ?_ (by simp) (by simp)
  refine (rangeOpening_takes.lays (by simp) (by simp)).bind fun _ => spaces_lays.bind fun _ => ?_
  refine word_lays.bind fun _ => (rangeJoiner_takes.lays (by simp) (by simp)).bind fun _ => ?_
  refine word_lays.bind fun _ => spaces_lays.bind fun _ => ?_
  exact (rangeClosing_takes.lays (by simp) (by simp)).bind fun _ => completes_pure _

theorem simpleRangeCondition_lays : Lays simpleRangeCondition := by
  refine Completes.node ?_ (by simp) (by simp)
  refine (comparison_takes.lays (by simp) (by simp)).bind fun _ => ?_
  exact word_lays.bind fun _ => completes_pure _

theorem regexCondition_lays : Lays regexCondition := by
  refine Completes.node ?_ (by simp) (by simp)
  refine (literal_lays _).bind fun _ => ((body_takes _).lays (by simp) (by simp)).bind fun _ => ?_
  exact (literal_lays _).bind fun _ => completes_pure _

theorem detachedCondition_lays : Lays detachedCondition :=
  Completes.node (word_lays.bind fun _ => completes_pure _) (by simp) (by simp)

section

variable {condition : Reader Tree} (h : Lays condition)

include h

theorem separated_coverAll {separator : Reader Tree} (hseparator : Lays separator) {c c' : Cursor}
    {p : Tree × Tree}
    (hp : ((do
      let op ← separator
      let next ← condition
      return (op, next) : Reader (Tree × Tree)) c).result = some (p, c')) :
    CoverAll c [p.1, p.2] c' := by
  simp only [result_bind, result_pure, Option.bind_eq_some_iff, Option.some.injEq,
    Prod.mk.injEq] at hp
  obtain ⟨⟨op, c₁⟩, hop, ⟨next, c₂⟩, hnext, rfl, rfl⟩ := hp
  exact ⟨c₁, hseparator c op c₁ hop, c₂, h c₁ next c₂ hnext, rfl⟩

theorem continuation_coverAll {c c' : Cursor} {p : Tree × Tree}
    (hp : (continuation condition c).result = some (p, c')) : CoverAll c [p.1, p.2] c' := by
  simp only [continuation, result_firstOf_cons, result_firstOf_nil, Option.or_none,
    Option.or_eq_some_iff] at hp
  rcases hp with hp | ⟨-, hp⟩
  · exact separated_coverAll h spacedOperator_lays hp
  · exact separated_coverAll h (orSpace_takes.lays (by simp) (by simp)) hp

theorem list_lays : Lays (list condition) := by
  intro c tree c' htree
  simp only [list, result_node, result_bind, result_here, result_many_bind, result_pure,
    Option.bind_some, Option.map_eq_some_iff, Option.bind_eq_some_iff, Option.some.injEq] at htree
  obtain ⟨_, ⟨⟨first, c₁⟩, hfirst, ⟨pairs, c₂⟩, hpairs, rfl⟩, heq⟩ := htree
  obtain ⟨rfl, rfl⟩ := Prod.mk.inj heq
  have hfirst := h c first c₁ hfirst
  have hpairs := coverAll_many (fun _ _ _ hp => continuation_coverAll h hp) hpairs
  obtain ⟨hseparators, hconditions⟩ := hpairs.inOrder_halves
  have hr := hfirst.stands.passes.reaches
  have hall : CoverAll c (first :: alternate pairs) c₂ := ⟨c₁, hfirst, hpairs⟩
  obtain ⟨s, hs⟩ := hall.inOrder.reaches
  obtain ⟨hspans, hsound⟩ := iteration_spans hseparators
  obtain ⟨hspans', hsound'⟩ := iteration_spans hconditions
  rw [Cursor.slice_passes c.reaches_refl hs]
  have hstands : Stands ⟨.list, c.offset, s, [first, iteration c₁ (pairs.map Prod.fst),
      iteration c₁ (pairs.map Prod.snd)]⟩ c c₂ := ⟨rfl, hs⟩
  refine ⟨hstands, by simp, sound_of_children c.reaches_refl hstands ?_ ?_⟩
  · refine ⟨fun _ hrule => absurd rfl hrule, fun _ => ⟨first, _, _, rfl, hfirst.rule, rfl, rfl, ?_⟩,
      fun _ _ _ => rfl⟩
    have hzip : (pairs.map Prod.fst).zip (pairs.map Prod.snd) = pairs := by
      rw [List.zip_map', List.map_id']
    refine ⟨by simp [iteration], ?_, ?_, ?_⟩
    · rw [hstands.stop]
      simp only [iteration, hzip]
      exact hall.tile
    · rw [hfirst.stands.stop]
      exact hspans
    · rw [hfirst.stands.stop]
      exact hspans'
  · simp only [List.forall_mem_cons]
    exact ⟨hfirst.sound, hsound.of_reaches hr, hsound'.of_reaches hr, by simp⟩

theorem parented_lays : Lays (parented condition) := by
  refine Completes.node ?_ (by simp) (by simp)
  refine (literal_lays _).bind fun _ => spaces_lays.bind fun _ => (list_lays h).bind fun _ => ?_
  exact spaces_lays.bind fun _ => (literal_lays _).bind fun _ => completes_pure _

theorem longNegation_lays : Lays (longNegation condition) := by
  refine Completes.node ?_ (by simp) (by simp)
  refine ((keyword_takes _).lays (by simp) (by simp)).bind fun _ => ?_
  refine (whitespace_takes.lays (by simp) (by simp)).bind fun _ => h.bind fun _ => ?_
  exact completes_pure _

theorem simpleNegation_lays : Lays (simpleNegation condition) := by
  refine Completes.node ?_ (by simp) (by simp)
  exact (literal_lays _).bind fun _ => h.bind fun _ => completes_pure _

theorem simpleMust_lays : Lays (simpleMust condition) := by
  refine Completes.node ?_ (by simp) (by simp)
  exact (literal_lays _).bind fun _ => h.bind fun _ => completes_pure _

theorem value_lays : Lays (value condition) := by
  apply lays_firstOf
  simp only [List.forall_mem_cons]
  exact ⟨rangeCondition_lays, simpleRangeCondition_lays, regexCondition_lays, parented_lays h,
    word_lays, by simp⟩

theorem fieldCondition_lays : Lays (fieldCondition condition) := by
  refine Completes.node ?_ (by simp) (by simp)
  refine (term_takes.lays (by simp) (by simp)).bind fun _ => (literal_lays _).bind fun _ => ?_
  exact (value_lays h).bind fun _ => completes_pure _

theorem conditionWith_lays : Lays (conditionWith condition) := by
  apply lays_firstOf
  simp only [List.forall_mem_cons]
  exact ⟨parented_lays h, longNegation_lays h, simpleNegation_lays h, simpleMust_lays h,
    fieldCondition_lays h, detachedCondition_lays, by simp⟩

end

theorem condition_lays : Lays condition := by
  intro c tree c' htree
  induction hn : c.rest.length using Nat.strongRecOn generalizing c tree c' with
  | _ n ih =>
    have hbelow : Lays (conditionBelow c.rest.length) := by
      intro c₁ tree₁ c₁' h₁
      unfold conditionBelow at h₁
      split at h₁
      · rename_i hlt
        exact ih _ (hn ▸ hlt) c₁ tree₁ c₁' h₁ rfl
      · simp at h₁
    rw [condition_eq_below] at htree
    exact conditionWith_lays hbelow c tree c' htree

theorem endOfInput_completes (done : List Tree) :
    Completes done (endOfInput >>= fun _ => pure done) := by
  intro c₀ c trees c' hdone h
  rw [result_bind, result_endOfInput, Option.bind_eq_some_iff] at h
  obtain ⟨⟨_, c₁⟩, hend, hpure⟩ := h
  rw [Option.ite_none_right_eq_some, Option.some.injEq, Prod.mk.injEq] at hend
  obtain ⟨-, -, rfl⟩ := hend
  exact completes_pure done c₀ c trees c' hdone hpure

theorem query_lays : Lays query := by
  refine Completes.node ?_ (by simp) (by simp)
  refine spaces_lays.bind fun _ => (list_lays condition_lays).bind fun _ => ?_
  exact spaces_lays.bind fun _ => endOfInput_completes _

end Grammar

/-! ## Whole trees -/

theorem Tree.Stands.source_eq {t : Text} {node : Tree} {c c' : Cursor} (h : node.Stands c c')
    (hr : (Cursor.start t).Reaches c) : node.source = t.slice node.offset node.stop := by
  have hslice := Cursor.slice_passes hr h.passes
  rw [← h.offset, ← h.stop] at hslice
  exact hslice.symm

theorem rule_of_query {c c' : Cursor} {tree : Tree}
    (h : (Grammar.query c).result = some (tree, c')) : tree.rule = .query := by
  rw [Grammar.query, Reader.result_node, Option.map_eq_some_iff] at h
  obtain ⟨_, -, heq⟩ := h
  rw [← (Prod.mk.inj heq).1]

/-- The parse tree of a text can be put together again to the text: every node holds its part of it,
and the parts stand side by side. -/
theorem parseTree_lossless {t : Text} {tree : Tree} (h : parseTree t = .ok tree) :
    tree.Lossless t := by
  rw [parseTree_eq_ok_iff] at h
  have hcovers := Grammar.query_lays _ _ _ h
  have hwithin := fun {node : Tree} (hnode : tree.Has node) => (hcovers.sound node hnode).1
  refine ⟨⟨rule_of_query h, hcovers.stands.offset, ?_⟩, ?_, ?_, ?_⟩
  · have hpasses := hcovers.stands.passes.1
    simpa [Cursor.start] using hpasses.symm
  · intro node hnode
    obtain ⟨c₁, c₂, hr, hstands⟩ := hwithin hnode
    exact hstands.source_eq hr
  · intro node hnode
    obtain ⟨c₁, c₂, hr, hstands⟩ := hwithin hnode
    rw [hstands.offset, hstands.stop]
    exact ⟨hr.isBoundary, (hr.trans hstands.passes.reaches).isBoundary⟩
  · exact fun hnode => (hcovers.sound _ hnode).2

theorem parseTree_lossless_glued :
    ∃ tree, parseTree "ü (b)AND c" = .ok tree ∧ tree.Lossless "ü (b)AND c" := by
  have hok : (parseTree "ü (b)AND c").isOk = true := by decide +kernel
  cases h : parseTree "ü (b)AND c" with
  | ok tree => exact ⟨tree, rfl, parseTree_lossless h⟩
  | error m =>
    rw [h] at hok
    exact absurd hok (by simp [Except.isOk, Except.toBool])

end SearchQuery
