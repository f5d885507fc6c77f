import SearchQuery.Proofs.Attempts
import SearchQuery.Proofs.Beginning

/-! # Tokens are tried where a query can go on

An attempt inside a condition that is given up later counts, too.
-/

namespace SearchQuery

namespace Reader

/-! ## What was read -/

section

variable {read : Reader Tree} {c c' : Cursor} {x : Tree}

theorem Reads.scan {scan : Text → Option (Query × Text)} (h : read.Reads scan)
    (hr : (read c).result = some (x, c')) : ∃ q, scan c.rest = some (q, c'.rest) := by
  have hrel := h c
  rw [hr] at hrel
  generalize scan c.rest = found at hrel
  cases hrel with
  | @some _ found hstands => exact ⟨found.1, by rw [hstands.rest]⟩

theorem Reads.scan_none {scan : Text → Option (Query × Text)} (h : read.Reads scan)
    (hr : (read c).result = none) : scan c.rest = none := by
  have hrel := h c
  rw [hr] at hrel
  generalize scan c.rest = found at hrel
  cases hrel
  rfl

theorem Takes.split {rule : Rule} {take : Text → Option Text} {s : Text} (h : read.Takes rule take)
    (hr : (read c).result = some (x, c')) (hs : c.Passes s c') :
    Lexeme.split take c.rest = some (s, c'.rest) := by
  rw [h.result] at hr
  obtain ⟨s', hs', heq⟩ := Option.map_eq_some_iff.mp hr
  have hpasses := Cursor.passes_past (h.front hs')
  rw [(Prod.mk.inj heq).2] at hpasses
  obtain rfl := hs.eq_of_rest hpasses.1
  exact (Lexeme.split_eq_some_iff h.front).mpr ⟨hs', hs.1⟩

theorem Takes.attemptsAfter_bind {α : Type} {next : Tree → Reader α} {rule : Rule}
    {take : Text → Option Text} {P : Text → Prop} (h : read.Takes rule take)
    (hread : AttemptsAfter read c P)
    (hnext : ∀ x c' s, Lexeme.split take c.rest = some (s, c'.rest) →
      AttemptsAfter (next x) c' fun s' => P (s ++ s')) : AttemptsAfter (read >>= next) c P :=
  hread.bind h.forward fun x c' s hr hs => hnext x c' s (h.split hr hs)

end

end Reader

namespace Grammar

open Reader Token Lexeme

variable {c : Cursor} {P : Text → Prop}

/-! ## Values of fields -/

theorem word_after : AttemptsAfter word c WordOpens :=
  attemptsAfter_word (.inl rfl) fun rest hrest hnone => .inr ⟨rest, hrest, hnone⟩

/-- What can be passed before a token of a joiner is tried. -/
def JoinerOpens (s : Text) : Prop :=
  s = [] ∨ ∃ b token, s = b ++ token ∧ Blank b ∧ b ≠ [] ∧ token <+: "TO"

theorem rangeJoiner_after : AttemptsAfter rangeJoiner c JoinerOpens := by
  refine AttemptsAfter.node _ ?_
  refine whitespace_takes.attemptsAfter_bind (attemptsAfter_whitespace (.inl rfl))
    fun _ _ b hb => ?_
  obtain ⟨hblank, hne, -⟩ := split_whitespace_iff.mp hb
  have hopens : ∀ token, token <+: "TO" → JoinerOpens (b ++ token) :=
    fun token htoken => .inr ⟨b, token, rfl, hblank, hne, htoken⟩
  refine (literal_takes _).attemptsAfter_bind
    (attemptsAfter_literal _ (hopens [] List.nil_prefix)) fun _ _ s hs => ?_
  obtain ⟨rfl, -⟩ := split_literal_iff.mp hs
  refine whitespace_takes.attemptsAfter_bind (attemptsAfter_whitespace ?_) fun _ _ _ _ =>
    attemptsAfter_nil rfl
  exact hopens _ (by simp)

theorem rangeCondition_after : AttemptsAfter rangeCondition c BeginsValue := by
  refine AttemptsAfter.node _ ?_
  refine rangeOpening_takes.attemptsAfter_bind (attemptsAfter_oneOf _ beginsValue_nil)
    fun _ c₁ _ hopening => ?_
  obtain ⟨left, rfl, -⟩ := split_rangeOpening_iff.mp hopening
  refine spaces_takes.attemptsAfter_bind attemptsAfter_spaces fun _ c₂ b₁ hb₁ => ?_
  obtain ⟨h₁, -⟩ := split_blanks_iff.mp hb₁
  refine word_takes.attemptsAfter_bind (word_after.mono ?_) fun _ c₃ lower hsplit => ?_
  · intro s _ _ hs
    obtain ⟨u, hword, hdangling, -⟩ := hs.completes
    exact beginsValue_lower h₁ hword hdangling
  obtain ⟨hword, -, hend⟩ := split_word_iff.mp hsplit
  refine rangeJoiner_takes.attemptsAfter_bind (rangeJoiner_after.mono ?_) fun _ c₄ _ hjoiner => ?_
  · rintro s rest hrest (rfl | ⟨b, token, rfl, hb, hne, htoken⟩)
    · rw [List.append_nil]
      exact beginsValue_lower h₁ hword.completed (dangling_completed lower)
    · have hclosed : dangling lower = false := hend.closed (by simp [hrest, hne])
      exact beginsValue_joiner h₁ hword hclosed hb hne htoken
  obtain ⟨b₂, b₃, h₂, hne₂, h₃, hne₃, rfl, hrest, -⟩ := split_rangeJoiner_iff.mp hjoiner
  have hclosed : dangling lower = false := hend.closed (by simp [hrest, hne₂])
  refine word_takes.attemptsAfter_bind (word_after.mono ?_) fun _ c₅ upper hsplit' => ?_
  · intro s _ _ hs
    obtain ⟨u, hword', hdangling, -⟩ := hs.completes
    simpa using beginsValue_upper h₁ hword hclosed h₂ hne₂ h₃ hne₃ hword' hdangling blank_nil
      (by simp)
  obtain ⟨hword', -, hend'⟩ := split_word_iff.mp hsplit'
  refine spaces_takes.attemptsAfter_bind attemptsAfter_spaces fun _ c₆ b₄ hb₄ => ?_
  obtain ⟨h₄, hrest', -⟩ := split_blanks_iff.mp hb₄
  refine rangeClosing_takes.attemptsAfter_bind (attemptsAfter_oneOf _ ?_) fun _ _ _ _ =>
    attemptsAfter_nil rfl
  have hu : b₄ ≠ [] → completion upper = [] := by
    intro hne
    exact completion_of_closed (hend'.closed (by simp [hrest', hne]))
  simpa using beginsValue_upper h₁ hword hclosed h₂ hne₂ h₃ hne₃ hword'.completed
    (dangling_completed upper) h₄ hu

theorem simpleRangeCondition_after : AttemptsAfter simpleRangeCondition c BeginsValue := by
  refine AttemptsAfter.node _ ?_
  refine comparison_takes.attemptsAfter_bind (attemptsAfter_oneOf _ beginsValue_nil)
    fun _ _ _ hs => ?_
  obtain ⟨operand, rfl, -⟩ := split_comparison_iff.mp hs
  refine word_takes.attemptsAfter_bind (word_after.mono ?_) fun _ _ _ _ => attemptsAfter_nil rfl
  exact fun s _ _ hs => beginsValue_comparison operand hs

theorem regexCondition_after : AttemptsAfter regexCondition c BeginsValue := by
  refine AttemptsAfter.node _ ?_
  refine (literal_takes _).attemptsAfter_bind (attemptsAfter_literal _ beginsValue_nil)
    fun _ c₁ _ hopening => ?_
  obtain ⟨rfl, -⟩ := split_literal_iff.mp hopening
  refine (body_takes _).attemptsAfter_bind (attemptsAfter_body _ ?_) fun _ _ s hs => ?_
  · exact fun hnone => beginsValue_regex (isBody_completed hnone)
  · obtain ⟨hbody, -⟩ := (split_body_iff (by decide)).mp hs
    refine (literal_takes _).attemptsAfter_bind (attemptsAfter_literal _ ?_) fun _ _ _ _ =>
      attemptsAfter_nil rfl
    exact beginsValue_regex (u := []) (by simpa using hbody)

/-! ## Lists -/

theorem boolOperator_after (hP : P []) : AttemptsAfter boolOperator c P := by
  have hkeywords : AttemptsAfter (firstOf [keyword "AND", keyword "OR", keyword "NOT"]) c P :=
    (attemptsAfter_keyword _ hP).firstOf_cons fun _ => (attemptsAfter_keyword _ hP).firstOf_cons
      fun _ => (attemptsAfter_keyword _ hP).firstOf_cons fun _ => attemptsAfter_firstOf_nil
  refine AttemptsAfter.node _ (hkeywords.bind (forward_firstOf ?_) fun _ _ _ _ _ =>
    attemptsAfter_nil rfl)
  simp only [List.mem_cons, List.not_mem_nil, or_false]
  rintro _ (rfl | rfl | rfl) <;> exact (keyword_takes _).forward

theorem spacedOperator_after : AttemptsAfter spacedOperator c Onset := by
  refine AttemptsAfter.node _ ?_
  refine spaces_takes.attemptsAfter_bind attemptsAfter_spaces fun _ _ b hb => ?_
  obtain ⟨hblank, -⟩ := split_blanks_iff.mp hb
  refine boolOperator_takes.attemptsAfter_bind (boolOperator_after ?_) fun _ _ _ _ => ?_
  · rw [List.append_nil]
    exact .blank hblank
  · exact attemptsAfter_spaces.bind spaces_takes.forward fun _ _ _ _ _ => attemptsAfter_nil rfl

theorem orSpace_after (hP : P []) : AttemptsAfter orSpace c P :=
  AttemptsAfter.node _ ((attemptsAfter_whitespace hP).bind whitespace_takes.forward
    fun _ _ _ _ _ => attemptsAfter_nil rfl)

theorem continuation_scan {c' : Cursor} {pair : Tree × Tree}
    (hr : (continuation condition c).result = some (pair, c')) : ∃ op next,
      Scan.continuation Scan.condition c.rest = some ((op, next), c'.rest) := by
  have hrel := continuation_rel condition_advances condition_reads c
  rw [hr] at hrel
  generalize Scan.continuation Scan.condition c.rest = found at hrel
  cases hrel with
  | @some _ found hstands => exact ⟨found.1.1, found.1.2, by rw [hstands.rest]⟩

theorem beginsList_of_read {c' : Cursor} {x : Tree} {s b more : Text}
    (hr : (list condition c).result = some (x, c')) (hs : c.Passes s c')
    (hrest : c'.rest = b ++ more) (hb : Blank b) : BeginsList (fun _ => True) (s ++ b) := by
  obtain ⟨q, hscan⟩ := (list_reads condition_advances condition_reads).scan hr
  obtain ⟨items, hitems, -⟩ := Scan.list_iff.mp hscan
  obtain ⟨s', hs', hspells, hlast⟩ := Scan.items_sound (fun t _ => Scan.condition_sound t)
    (Nat.lt_succ_self _) hitems
  obtain rfl := hs.eq_of_rest hs'
  rw [hrest] at hlast
  exact (beginsList_of_spells hspells hlast hb).mono fun _ _ => trivial

theorem length_lt_of_append {n : Nat} {token b rest : Text} (hne : token ≠ [])
    (hle : (token ++ (b ++ rest)).length ≤ n) : rest.length < n := by
  have hpos : 0 < token.length := List.length_pos_iff.mpr hne
  simp only [List.length_append] at hle
  omega

/-- In shorter texts a condition tries a token only after the beginning of a condition. -/
def ViableBelow (n : Nat) : Prop :=
  ∀ c : Cursor, c.rest.length < n → AttemptsAfter condition c Begins

theorem atWordEnd_of_append {t u : Text} (h : atWordEnd (t ++ u)) : atWordEnd t := by
  cases t with
  | nil => rfl
  | cons x t => exact h

/-- The rest of a list, behind its first condition. -/
def TailAfter (first : Query) (s : Text) (c : Cursor) : Prop :=
  AttemptsAfter (many (continuation condition)) c fun s' => BeginsList (Keeps first) (s ++ s')

theorem tail_after_operator {first op next : Query} {s s₁ : Text} {c' : Cursor}
    (hfirst : Scan.Reading first s c.rest) (hs₁ : c.Passes s₁ c')
    (hpair : Scan.separated Scan.condition Scan.spacedOperator c.rest =
      some ((op, next), c'.rest))
    (htail : ∀ s₂, Scan.Reading next s₂ c'.rest → TailAfter next s₂ c') :
    AttemptsAfter (many (continuation condition)) c' fun s' =>
      BeginsList (Keeps first) (s ++ (s₁ ++ s')) := by
  obtain ⟨v, hspaced, hnext⟩ := Scan.separated_iff.mp hpair
  obtain ⟨op, b, x, -, hop, hb, hrest, hend, rfl⟩ := Scan.spacedOperator_iff.mp hspaced
  obtain ⟨s₂, hx, hreading⟩ := Scan.condition_sound _ _ _ hnext
  obtain ⟨b', hb', hx'⟩ := exists_blank x
  rw [hx] at hx'
  obtain rfl : s₁ = b ++ (op.text ++ (b' ++ s₂)) := hs₁.eq_of_rest (by simp [hrest, hx'])
  rw [hrest] at hfirst
  refine (htail s₂ hreading).mono fun s₃ more hs₃ hbegins => ?_
  have hend' : atWordEnd (b' ++ (s₂ ++ s₃)) := by
    apply atWordEnd_of_append (u := more)
    simpa [hx', hs₃] using hend
  simpa using hfirst.begins_operator hop hb hb' hend' hbegins

section

variable {n : Nat} (hbelow : ViableBelow n)

include hbelow

theorem continuation_after (hlt : c.rest.length < n) :
    AttemptsAfter (continuation condition) c Onset := by
  have hshorter : ∀ {c' : Cursor} {s : Text}, c.Passes s c' → c'.rest.length < n := by
    intro c' s hs
    exact Nat.lt_of_le_of_lt hs.reaches.length_le hlt
  refine AttemptsAfter.firstOf_cons ?_ fun _ => AttemptsAfter.firstOf_cons ?_ fun _ =>
    attemptsAfter_firstOf_nil
  · refine spacedOperator_after.bind spacedOperator_advances.forward fun _ c' s hr hs => ?_
    obtain ⟨q, hscan⟩ := spacedOperator_reads.scan hr
    obtain ⟨op, b₁, x, -, hop, h₁, hrest, hend, hx⟩ := Scan.spacedOperator_iff.mp hscan
    obtain ⟨b₂, h₂, hx'⟩ := exists_blank x
    rw [← hx] at hx'
    obtain rfl : s = b₁ ++ (op.text ++ b₂) := hs.eq_of_rest (by simp [hrest, hx'])
    refine ((hbelow c' (hshorter hs)).mono fun s' rest hs' hbegins => ?_).bind
      condition_advances.forward fun _ _ _ _ _ => attemptsAfter_nil rfl
    have hend' : atWordEnd (b₂ ++ s') := by
      apply atWordEnd_of_append (u := rest)
      rwa [List.append_assoc, ← hs', ← hx']
    simpa using Onset.operator hop h₁ h₂ hend' hbegins
  · refine (orSpace_after (.blank blank_nil)).bind orSpace_advances.forward fun _ c' s hr hs => ?_
    obtain ⟨hb, hne, -⟩ := split_whitespace_iff.mp (orSpace_takes.split hr hs)
    refine ((hbelow c' (hshorter hs)).mono fun s' _ _ hs' => Onset.either hb hne hs').bind
      condition_advances.forward fun _ _ _ _ _ => attemptsAfter_nil rfl

theorem tail_after_either {first op next : Query} {s s₁ : Text} {c' : Cursor}
    (hfirst : Scan.Reading first s c.rest) (hs₁ : c.Passes s₁ c') (hlt : c'.rest.length < n)
    (hnone : Scan.separated Scan.condition Scan.spacedOperator c.rest = none)
    (hpair : Scan.separated Scan.condition Scan.orSpace c.rest = some ((op, next), c'.rest))
    (htail : ∀ s₂, Scan.Reading next s₂ c'.rest → TailAfter next s₂ c') :
    AttemptsAfter (many (continuation condition)) c' fun s' =>
      BeginsList (Keeps first) (s ++ (s₁ ++ s')) := by
  have hcont := Scan.continuation_iff.mpr (.inr ⟨hnone, hpair⟩)
  have hnot := hfirst.endsNot_eq_false hcont
  obtain ⟨v, hspace, hnext⟩ := Scan.separated_iff.mp hpair
  obtain ⟨b, -, hb, hne, hrest, -⟩ := Scan.orSpace_iff.mp hspace
  rw [hrest] at hnone hfirst
  obtain ⟨s₂, hv, hreading⟩ := Scan.condition_sound _ _ _ hnext
  obtain rfl : s₁ = b ++ s₂ := hs₁.eq_of_rest (by simp [hrest, hv])
  by_cases hkeyword : next.isKeyword
  · -- The list ends here, so the attempts are those for one more condition.
    obtain ⟨op, hop, rfl, hop', hafter⟩ := Scan.condition_after_keyword hb hnone
      (Scan.condition_sound v) hnext hkeyword
    obtain rfl := hreading.spells.eq_of_term
    refine AttemptsAfter.many ((continuation_after hbelow hlt).mono fun s₃ more hs₃ honset => ?_)
      (continuation_advances condition_advances.forward).forward fun _ _ _ hr' => ?_
    · rw [hs₃] at hop' hafter
      rw [hop'] at hfirst
      simpa using hfirst.begins_keyword hop hb hne hafter honset
    · obtain ⟨_, _, hcont'⟩ := continuation_scan hr'
      simp [Scan.continuation_eq_none hafter] at hcont'
  · rw [Bool.not_eq_true] at hkeyword
    refine (htail s₂ hreading).mono fun s₃ more _ hbegins => ?_
    have hafter := Scan.ne_marked_not hb hnone hnext
    simpa using hfirst.begins_either hnot hb hne
      (hbegins.mono fun _ hkeeps => hkeeps ⟨hafter, fun _ => rfl⟩ hkeyword)

theorem tail_after {first : Query} {s : Text} (hlt : c.rest.length < n)
    (hfirst : Scan.Reading first s c.rest) : TailAfter first s c := by
  have hforward : Forward (continuation condition) :=
    (continuation_advances condition_advances.forward).forward
  -- Behind each pair its own condition takes the place of the first one.
  induction hm : c.rest.length using Nat.strongRecOn generalizing c first s with
  | _ m ih =>
    refine AttemptsAfter.many ((continuation_after hbelow hlt).mono fun s' more hrest hs' => ?_)
      hforward fun _ c' s₁ hr hs₁ hlt' => ?_
    · rw [hrest] at hfirst
      exact hfirst.begins_onset hs'
    obtain ⟨op, next, hcont⟩ := continuation_scan hr
    have hlt₁ : c'.rest.length < n := Nat.lt_trans hlt' hlt
    have hnext : ∀ s₂, Scan.Reading next s₂ c'.rest → TailAfter next s₂ c' :=
      fun s₂ hreading => ih _ (hm ▸ hlt') hlt₁ hreading rfl
    rcases Scan.continuation_iff.mp hcont with hpair | ⟨hnone, hpair⟩
    · exact tail_after_operator hfirst hs₁ hpair hnext
    · exact tail_after_either hbelow hfirst hs₁ hlt₁ hnone hpair hnext

theorem list_after (hlt : c.rest.length < n) :
    AttemptsAfter (list condition) c (BeginsList fun _ => True) := by
  refine AttemptsAfter.node _ (AttemptsAfter.bind ((hbelow c hlt).mono fun _ _ _ hs => hs.list)
    condition_advances.forward fun _ c₁ s hr hs => ?_)
  obtain ⟨first, hscan⟩ := condition_reads.scan hr
  obtain ⟨s', hs', hreading⟩ := Scan.condition_sound _ _ _ hscan
  obtain rfl := hs.eq_of_rest hs'
  refine AttemptsAfter.bind (attemptsAfter_nil rfl) forward_here fun _ c₂ s₂ hr₂ hs₂ => ?_
  simp only [result_here, Option.some.injEq, Prod.mk.injEq] at hr₂
  obtain rfl := hr₂.2
  obtain rfl : s₂ = [] := by simpa using hs₂.1
  have hlt₁ : c₁.rest.length < n := Nat.lt_of_le_of_lt hs.reaches.length_le hlt
  refine AttemptsAfter.bind ?_ (continuation_advances condition_advances.forward).forward.many
    fun _ _ _ _ _ => attemptsAfter_nil rfl
  refine (tail_after hbelow hlt₁ hreading).mono fun s' _ _ hbegins => ?_
  exact hbegins.mono fun _ _ => trivial

/-! ## Conditions -/

theorem parented_after (hle : c.rest.length ≤ n) :
    AttemptsAfter (parented condition) c BeginsParented := by
  refine AttemptsAfter.node _ ?_
  refine (literal_takes _).attemptsAfter_bind (attemptsAfter_literal _ beginsParented_nil)
    fun _ c₁ _ hopening => ?_
  obtain ⟨rfl, hrest₁⟩ := split_literal_iff.mp hopening
  refine spaces_takes.attemptsAfter_bind attemptsAfter_spaces fun _ c₂ b hb => ?_
  obtain ⟨hblank, hrest₂, -⟩ := split_blanks_iff.mp hb
  rw [hrest₁, hrest₂] at hle
  have hlt : c₂.rest.length < n := length_lt_of_append (by simp) hle
  refine AttemptsAfter.bind ((list_after hbelow hlt).mono fun s _ _ hs => hs.parenthesized hblank)
    (list_forward condition_advances.forward) fun _ c₃ s hr hs => ?_
  refine spaces_takes.attemptsAfter_bind attemptsAfter_spaces fun _ c₄ b' hb' => ?_
  obtain ⟨hblank', hrest₄, -⟩ := split_blanks_iff.mp hb'
  refine (literal_takes _).attemptsAfter_bind (attemptsAfter_literal _ ?_) fun _ _ _ _ =>
    attemptsAfter_nil rfl
  rw [List.append_nil]
  exact (beginsList_of_read hr hs hrest₄ hblank').parenthesized hblank

theorem value_after (hle : c.rest.length ≤ n) : AttemptsAfter (value condition) c BeginsValue := by
  refine rangeCondition_after.firstOf_cons fun _ => ?_
  refine simpleRangeCondition_after.firstOf_cons fun _ => ?_
  refine regexCondition_after.firstOf_cons fun _ => ?_
  refine AttemptsAfter.firstOf_cons ((parented_after hbelow hle).mono fun _ _ _ => .inl) fun _ => ?_
  exact (word_after.mono fun _ _ _ => beginsValue_of_wordOpens).firstOf_cons fun _ =>
    attemptsAfter_firstOf_nil

theorem longNegation_after (hle : c.rest.length ≤ n) :
    AttemptsAfter (longNegation condition) c Begins := by
  refine AttemptsAfter.node _ ?_
  refine (keyword_takes _).attemptsAfter_bind (attemptsAfter_keyword _ begins_nil)
    fun _ c₁ _ hmark => ?_
  obtain ⟨rfl, hrest₁, -⟩ := split_keyword_iff.mp hmark
  refine whitespace_takes.attemptsAfter_bind (attemptsAfter_whitespace begins_not)
    fun _ c₂ b hb => ?_
  obtain ⟨hblank, hne, hrest₂, -⟩ := split_whitespace_iff.mp hb
  rw [hrest₁, hrest₂] at hle
  have hlt : c₂.rest.length < n := length_lt_of_append (by simp) hle
  refine AttemptsAfter.bind ((hbelow c₂ hlt).mono fun _ _ _ hs => hs.negated hblank hne)
    condition_advances.forward fun _ _ _ _ _ => attemptsAfter_nil rfl

theorem signed_after {make : Tree → Tree → List Tree} (mark : Mark) (hmark : mark ≠ .not)
    (hle : c.rest.length ≤ n) :
    AttemptsAfter (do
      let sign ← literal mark.text
      let value ← condition
      return make sign value) c Begins := by
  refine (literal_takes _).attemptsAfter_bind (attemptsAfter_literal _ begins_nil)
    fun _ c₁ _ hsign => ?_
  obtain ⟨rfl, hrest⟩ := split_literal_iff.mp hsign
  rw [hrest] at hle
  have hlt : c₁.rest.length < n := length_lt_of_append (b := []) (by cases mark <;> decide) hle
  exact AttemptsAfter.bind ((hbelow c₁ hlt).mono fun _ _ _ hs => hs.signed hmark)
    condition_advances.forward fun _ _ _ _ _ => attemptsAfter_nil rfl

/-- The name of a field is no condition behind a sign, as such a condition would have been read. -/
theorem fieldCondition_after (hle : c.rest.length ≤ n)
    (hminus : (simpleNegation condition c).result = none)
    (hplus : (simpleMust condition c).result = none) :
    AttemptsAfter (fieldCondition condition) c Begins := by
  have hminus' := (simpleNegation_reads condition_reads).scan_none hminus
  have hplus' := (simpleMust_reads condition_reads).scan_none hplus
  refine AttemptsAfter.node _ ?_
  refine term_takes.attemptsAfter_bind (attemptsAfter_term begins_nil) fun _ c₁ name hterm => ?_
  obtain ⟨hname, hrest₁, hend⟩ := split_term_iff.mp hterm
  rw [hrest₁] at hminus' hplus'
  have hfree : SignFree name := Scan.signFree_of_signed (.inr hname) hminus' hplus'
  refine (literal_takes _).attemptsAfter_bind (attemptsAfter_literal _ ?_) fun _ c₂ _ hcolon => ?_
  · rw [List.append_nil]
    exact begins_word (.inr hname) hfree
  obtain ⟨rfl, hrest₂⟩ := split_literal_iff.mp hcolon
  have hclosed : dangling name = false := hend.closed (by simp [hrest₂])
  have hle₂ : c₂.rest.length ≤ n := by
    simp only [hrest₁, hrest₂, List.length_append] at hle
    omega
  have hvalue := (value_after hbelow hle₂).mono fun _ _ _ hs => hs.field hname hclosed hfree
  exact hvalue.bind (value_forward condition_advances.forward) fun _ _ _ _ _ =>
    attemptsAfter_nil rfl

theorem conditionWith_after (hle : c.rest.length ≤ n) :
    AttemptsAfter (conditionWith condition) c Begins := by
  refine AttemptsAfter.firstOf_cons ((parented_after hbelow hle).mono fun _ _ _ hs => hs.begins)
    fun _ => ?_
  refine (longNegation_after hbelow hle).firstOf_cons fun _ => ?_
  refine AttemptsAfter.firstOf_cons ((signed_after hbelow .minus (by simp) hle).node _)
    fun hminus => ?_
  refine AttemptsAfter.firstOf_cons ((signed_after hbelow .plus (by simp) hle).node _)
    fun hplus => ?_
  refine (fieldCondition_after hbelow hle hminus hplus).firstOf_cons fun _ => ?_
  refine AttemptsAfter.firstOf_cons (AttemptsAfter.node _ ?_) fun _ => attemptsAfter_firstOf_nil
  exact (word_after.mono fun _ _ _ => begins_of_wordOpens).bind word_takes.forward
    fun _ _ _ _ _ => attemptsAfter_nil rfl

end

theorem condition_after (c : Cursor) : AttemptsAfter condition c Begins := by
  induction hn : c.rest.length using Nat.strongRecOn generalizing c with
  | _ n ih =>
    have hbelow : ViableBelow n := fun c' hlt => ih _ hlt c' rfl
    unfold AttemptsAfter
    rw [condition_eq]
    exact conditionWith_after hbelow (Nat.le_of_eq hn)

/-- Every token is tried after a text that can be completed to one that parses. -/
theorem query_after (c : Cursor) :
    AttemptsAfter query c fun s => ∃ u q, parse (s ++ u) = .ok q := by
  have hbelow : ∀ n, ViableBelow n := fun _ c _ => condition_after c
  refine AttemptsAfter.node _ ?_
  refine spaces_takes.attemptsAfter_bind attemptsAfter_spaces fun _ c₁ b hb => ?_
  obtain ⟨hblank, -⟩ := split_blanks_iff.mp hb
  refine AttemptsAfter.bind ?_ (list_forward condition_advances.forward) fun _ c₂ s hr hs => ?_
  · exact (list_after (hbelow _) (Nat.lt_succ_self _)).mono fun _ _ _ hs => hs.parses hblank
  refine spaces_takes.attemptsAfter_bind attemptsAfter_spaces fun _ c₃ b' hb' => ?_
  obtain ⟨hblank', hrest, -⟩ := split_blanks_iff.mp hb'
  have hlist := (beginsList_of_read hr hs hrest hblank').parses hblank
  refine (attemptsAfter_endOfInput ?_).bind endOfInput_forward fun _ _ _ _ _ =>
    attemptsAfter_nil rfl
  simpa using hlist

end Grammar

end SearchQuery
