import SearchQuery.Proofs.Progress

/-! # Tokens that are tried without a match -/

namespace SearchQuery

/-! ## The record of the furthest attempts -/

namespace Furthest

/-- The record holds the furthest offset of the attempts, and what was tried there, each thing once
and in the order of the first attempts. -/
structure Records (seen : Furthest) (attempts : List Attempt) : Prop where
  furthest : ∀ a ∈ attempts, a.offset ≤ seen.offset
  reached : attempts ≠ [] → ∃ a ∈ attempts, a.offset = seen.offset
  start : attempts = [] → seen.offset = 0
  expected : seen.expected =
    ((attempts.filter (·.offset = seen.offset)).map Attempt.expected).eraseDups

theorem records_start : start.Records [] := by
  refine ⟨by simp, by simp, fun _ => rfl, ?_⟩
  simp [start]

theorem eraseDups_concat (items : List Expected) (item : Expected) :
    (items ++ [item]).eraseDups =
      if item ∈ items then items.eraseDups else items.eraseDups ++ [item] := by
  rw [List.eraseDups_append]
  by_cases h : item ∈ items <;> simp [List.removeAll, h, List.eraseDups_cons]

theorem Records.note_further {seen : Furthest} {attempts : List Attempt} (h : seen.Records attempts)
    {a : Attempt} (hlt : seen.offset < a.offset) : (seen.note a).Records (attempts ++ [a]) := by
  have hnote : seen.note a = ⟨a.offset, [a.expected]⟩ := by simp [note, hlt]
  have hnone : attempts.filter (·.offset = a.offset) = [] := by
    rw [List.filter_eq_nil_iff]
    intro b hb
    have := h.furthest b hb
    simp only [decide_eq_true_eq]
    omega
  rw [hnote]
  refine ⟨?_, fun _ => ⟨a, by simp, rfl⟩, by simp, ?_⟩
  · intro b hb
    rcases List.mem_append.mp hb with hb | hb
    · have := h.furthest b hb
      simp only
      omega
    · obtain rfl := List.mem_singleton.mp hb
      exact Nat.le_refl _
  · simp [List.filter_append, hnone, List.eraseDups_cons]

theorem Records.note_there {seen : Furthest} {attempts : List Attempt} (h : seen.Records attempts)
    {a : Attempt} (heq : a.offset = seen.offset) : (seen.note a).Records (attempts ++ [a]) := by
  have hmem : a.expected ∈ seen.expected ↔
      a.expected ∈ (attempts.filter (·.offset = seen.offset)).map Attempt.expected := by
    rw [h.expected, List.mem_eraseDups]
  have hnote : seen.note a = ⟨seen.offset,
      if a.expected ∈ seen.expected then seen.expected else seen.expected ++ [a.expected]⟩ := by
    by_cases hin : a.expected ∈ seen.expected <;> simp [note, heq, hin]
  rw [hnote]
  refine ⟨?_, fun _ => ⟨a, by simp, heq⟩, by simp, ?_⟩
  · intro b hb
    rcases List.mem_append.mp hb with hb | hb
    · exact h.furthest b hb
    · obtain rfl := List.mem_singleton.mp hb
      exact Nat.le_of_eq heq
  · rw [List.filter_append, List.filter_cons_of_pos (by simpa using heq), List.filter_nil,
      List.map_append, List.map_singleton, eraseDups_concat, ← h.expected]
    simp only [hmem]

theorem Records.note_before {seen : Furthest} {attempts : List Attempt} (h : seen.Records attempts)
    {a : Attempt} (hlt : a.offset < seen.offset) : (seen.note a).Records (attempts ++ [a]) := by
  have hnote : seen.note a = seen := by
    have hle : ¬ seen.offset < a.offset := by omega
    have hne : a.offset ≠ seen.offset := by omega
    simp [note, hle, hne]
  have hne : attempts ≠ [] := by
    intro hnil
    have := h.start hnil
    omega
  rw [hnote]
  refine ⟨?_, fun _ => ?_, by simp, ?_⟩
  · intro b hb
    rcases List.mem_append.mp hb with hb | hb
    · exact h.furthest b hb
    · obtain rfl := List.mem_singleton.mp hb
      exact Nat.le_of_lt hlt
  · obtain ⟨b, hb, hoff⟩ := h.reached hne
    exact ⟨b, by simp [hb], hoff⟩
  · have hout : [a].filter (fun b => b.offset = seen.offset) = [] := by
      have : a.offset ≠ seen.offset := by omega
      simp [this]
    rw [List.filter_append, hout, List.append_nil]
    exact h.expected

theorem Records.note {seen : Furthest} {attempts : List Attempt} (h : seen.Records attempts)
    (a : Attempt) : (seen.note a).Records (attempts ++ [a]) := by
  rcases Nat.lt_trichotomy seen.offset a.offset with hlt | heq | hlt
  · exact h.note_further hlt
  · exact h.note_there heq.symm
  · exact h.note_before hlt

theorem Records.foldl_note {seen : Furthest} {attempts : List Attempt} (h : seen.Records attempts)
    (later : List Attempt) : (later.foldl Furthest.note seen).Records (attempts ++ later) := by
  induction later generalizing seen attempts with
  | nil => simpa using h
  | cons a later ih => simpa using ih (h.note a)

theorem records_ofAttempts (attempts : List Attempt) : (ofAttempts attempts).Records attempts :=
  records_start.foldl_note attempts

end Furthest

namespace Reader

variable {α β : Type}

/-! ## Readers that say why they fail -/

/-- Where the reader fails, it has tried something. -/
def Blames (read : Reader α) : Prop := ∀ c, (read c).result = none → (read c).attempts ≠ []

theorem attempts_bind (read : Reader α) (next : α → Reader β) (c : Cursor) :
    ((read >>= next) c).attempts = (read c).attempts ++
      ((read c).result.map fun found => (next found.1 found.2).attempts).getD [] := by
  cases h : read c with
  | mk tried result =>
    cases result with
    | none => rw [bind_of_none h]; simp
    | some found => rw [bind_of_some h]; rfl

theorem attempts_firstOf_cons (read : Reader α) (others : List (Reader α)) (c : Cursor) :
    (firstOf (read :: others) c).attempts = (read c).attempts ++
      if (read c).result = none then (firstOf others c).attempts else [] := by
  simp only [firstOf]
  split <;> simp_all

theorem attempts_many (read : Reader α) (c : Cursor) :
    (many read c).attempts = (read c).attempts ++
      match (read c).result with
      | none => []
      | some (_, c') => if c'.rest.length < c.rest.length then (many read c').attempts else [] := by
  rw [many]
  split
  · rename_i hread
    simp [hread]
  · rename_i hread
    simp only [hread]
    split <;> simp

theorem blames_of_result {read : Reader α} (h : ∀ c, (read c).result ≠ none) : Blames read :=
  fun c hnone => absurd hnone (h c)

theorem Blames.bind {read : Reader α} {next : α → Reader β} (h : Blames read)
    (hnext : ∀ a, Blames (next a)) : Blames (read >>= next) := by
  intro c hnone
  rw [result_bind] at hnone
  rw [attempts_bind]
  cases hr : (read c).result with
  | none => simp [h c hr]
  | some found =>
    rw [hr, Option.bind_some] at hnone
    simp [hnext found.1 found.2 hnone]

theorem Blames.node {children : Reader (List Tree)} (rule : Rule) (h : Blames children) :
    Blames (node rule children) := by
  intro c hnone
  exact h c (by simpa using hnone)

/-- It is enough that one of the alternatives says why it fails. -/
theorem blames_firstOf {reads : List (Reader α)} (h : ∃ read ∈ reads, Blames read) :
    Blames (firstOf reads) := by
  induction reads with
  | nil => simp at h
  | cons read others ih =>
    intro c hnone
    rw [result_firstOf_cons, Option.or_eq_none_iff] at hnone
    rw [attempts_firstOf_cons, if_pos hnone.1]
    obtain ⟨read', hmem, hblames⟩ := h
    rcases List.mem_cons.mp hmem with rfl | hmem
    · simp [hblames c hnone.1]
    · simp [ih ⟨read', hmem, hblames⟩ c hnone.2]

/-! ## What was passed before an attempt -/

/-- The reader tries each token only after a text with the property. -/
def AttemptsAfter (read : Reader α) (c : Cursor) (P : Text → Prop) : Prop :=
  ∀ a ∈ (read c).attempts, ∃ s c', c.Passes s c' ∧ a.offset = c'.offset ∧ P s

section

variable {c : Cursor} {P Q : Text → Prop}

theorem AttemptsAfter.mono {read : Reader α} (h : AttemptsAfter read c P)
    (hQ : ∀ s rest, c.rest = s ++ rest → P s → Q s) : AttemptsAfter read c Q := by
  intro a ha
  obtain ⟨s, c', hpasses, hoff, hs⟩ := h a ha
  exact ⟨s, c', hpasses, hoff, hQ s c'.rest hpasses.1 hs⟩

theorem attemptsAfter_nil {read : Reader α} (h : (read c).attempts = []) :
    AttemptsAfter read c P := by
  intro a ha
  simp [h] at ha

theorem attemptsAfter_here {read : Reader α} (h : ∀ a ∈ (read c).attempts, a.offset = c.offset)
    (hP : P []) : AttemptsAfter read c P :=
  fun a ha => ⟨[], c, c.passes_nil, h a ha, hP⟩

theorem AttemptsAfter.bind {read : Reader α} {next : α → Reader β} (h : AttemptsAfter read c P)
    (hforward : Forward read)
    (hnext : ∀ x c' s, (read c).result = some (x, c') → c.Passes s c' →
      AttemptsAfter (next x) c' fun s' => P (s ++ s')) :
    AttemptsAfter (read >>= next) c P := by
  intro a ha
  rw [attempts_bind, List.mem_append] at ha
  rcases ha with ha | ha
  · exact h a ha
  · cases hr : (read c).result with
    | none => simp [hr] at ha
    | some found =>
      obtain ⟨x, c'⟩ := found
      obtain ⟨s, hs⟩ := hforward c x c' hr
      rw [hr] at ha
      obtain ⟨s', c'', hs', hoff, hP⟩ := hnext x c' s hr hs a ha
      exact ⟨s ++ s', c'', Cursor.Passes.trans hs hs', hoff, hP⟩

theorem AttemptsAfter.firstOf_cons {read : Reader α} {others : List (Reader α)}
    (h : AttemptsAfter read c P)
    (hothers : (read c).result = none → AttemptsAfter (firstOf others) c P) :
    AttemptsAfter (firstOf (read :: others)) c P := by
  intro a ha
  rw [attempts_firstOf_cons, List.mem_append] at ha
  rcases ha with ha | ha
  · exact h a ha
  · split at ha
    · rename_i hnone
      exact hothers hnone a ha
    · simp at ha

theorem attemptsAfter_firstOf_nil : AttemptsAfter (firstOf ([] : List (Reader α))) c P :=
  attemptsAfter_nil rfl

theorem AttemptsAfter.node {children : Reader (List Tree)} (rule : Rule)
    (h : AttemptsAfter children c P) : AttemptsAfter (node rule children) c P := h

theorem AttemptsAfter.many {read : Reader α} (h : AttemptsAfter read c P)
    (hforward : Forward read)
    (hmore : ∀ x c' s, (read c).result = some (x, c') → c.Passes s c' →
      c'.rest.length < c.rest.length → AttemptsAfter (many read) c' fun s' => P (s ++ s')) :
    AttemptsAfter (many read) c P := by
  intro a ha
  rw [attempts_many, List.mem_append] at ha
  rcases ha with ha | ha
  · exact h a ha
  · split at ha
    · simp at ha
    · rename_i x c' hr
      split at ha
      · rename_i hlt
        obtain ⟨s, hs⟩ := hforward c x c' hr
        obtain ⟨s', c'', hs', hoff, hP⟩ := hmore x c' s hr hs hlt a ha
        exact ⟨s ++ s', c'', Cursor.Passes.trans hs hs', hoff, hP⟩
      · simp at ha

end

end Reader

/-! ## Tokens -/

namespace Token

open Reader

section

variable {c : Cursor} {P : Text → Prop}

theorem attemptsAfter_literal (token : Text) (hP : P []) : AttemptsAfter (literal token) c P := by
  refine attemptsAfter_here (fun a ha => ?_) hP
  unfold literal at ha
  split at ha <;> simp_all [leaf, miss]

theorem attemptsAfter_oneOf (tokens : List Text) (hP : P []) :
    AttemptsAfter (oneOf tokens) c P := by
  unfold oneOf
  induction tokens with
  | nil => exact attemptsAfter_firstOf_nil
  | cons token others ih => exact (attemptsAfter_literal token hP).firstOf_cons fun _ => ih

theorem attemptsAfter_keyword (token : Text) (hP : P []) : AttemptsAfter (keyword token) c P := by
  refine attemptsAfter_here (fun a ha => ?_) hP
  unfold keyword at ha
  split at ha <;> simp_all [leaf, miss]

theorem attemptsAfter_spaces : AttemptsAfter spaces c P := attemptsAfter_nil rfl

theorem attemptsAfter_whitespace (hP : P []) : AttemptsAfter whitespace c P := by
  refine attemptsAfter_here (fun a ha => ?_) hP
  unfold whitespace at ha
  split at ha
  · simp_all [miss]
  · split at ha <;> simp_all [spaces, leaf, miss]

theorem attemptsAfter_term (hP : P []) : AttemptsAfter term c P := by
  refine attemptsAfter_here (fun a ha => ?_) hP
  unfold term at ha
  split at ha
  · simp_all [miss]
  · split at ha <;> simp_all [leaf, miss]

theorem attemptsAfter_endOfInput (hP : P []) : AttemptsAfter endOfInput c P := by
  refine attemptsAfter_here (fun a ha => ?_) hP
  unfold endOfInput at ha
  split at ha <;> simp_all [miss]

theorem attemptsAfter_body (close : Char) (hP : c.rest.delimited close = none → P c.rest) :
    AttemptsAfter (body close) c P := by
  intro a ha
  unfold body at ha
  split at ha
  · simp [leaf] at ha
  · rename_i hnone
    obtain rfl := List.mem_singleton.mp ha
    exact ⟨c.rest, ⟨c.offset + c.rest.byteSize, []⟩, ⟨by simp, rfl⟩, rfl, hP hnone⟩

theorem attemptsAfter_word (hP : P [])
    (hphrase : ∀ rest : Text, c.rest = '"' :: rest → rest.delimited '"' = none → P c.rest) :
    AttemptsAfter word c P := by
  refine AttemptsAfter.firstOf_cons (AttemptsAfter.node _ ?_) fun _ =>
    (attemptsAfter_term hP).firstOf_cons fun _ => attemptsAfter_firstOf_nil
  refine (attemptsAfter_literal _ hP).bind (literal_takes _).forward fun _ c₁ s hquote hs => ?_
  have hrest : c.rest = '"' :: c₁.rest ∧ s = ['"'] := by
    rw [(literal_takes _).result] at hquote
    obtain ⟨token, htoken, heq⟩ := Option.map_eq_some_iff.mp hquote
    rw [Lexeme.literal, Option.ite_none_right_eq_some, Option.some.injEq] at htoken
    obtain ⟨hfront, rfl⟩ := htoken
    have hpasses := Cursor.passes_past (List.isPrefixOf_iff_prefix.mp hfront)
    rw [(Prod.mk.inj heq).2] at hpasses
    exact ⟨hpasses.1, hs.eq_of_rest hpasses.1⟩
  refine (attemptsAfter_body '"' ?_).bind (body_takes _).forward ?_
  · intro hnone
    have hwhole := hphrase c₁.rest hrest.1 hnone
    rwa [hs.1] at hwhole
  · -- After a body comes its end, so nothing else is missed.
    intro _ c₂ s' hbody _
    have hclose : (literal "\"" c₂).attempts = [] := by
      rw [(body_takes _).result] at hbody
      obtain ⟨taken, htaken, heq⟩ := Option.map_eq_some_iff.mp hbody
      obtain ⟨⟨b, after⟩, hd, rfl⟩ := Option.map_eq_some_iff.mp htaken
      have hc₂ : c₂.rest = '"' :: after := by
        rw [← (Prod.mk.inj heq).2, Cursor.past_rest (Text.delimited_eq hd)]
      simp [literal, hc₂, leaf]
    refine (attemptsAfter_nil hclose).bind (literal_takes _).forward fun _ _ _ _ _ => ?_
    exact (attemptsAfter_nil rfl).bind wordTail_takes.forward fun _ _ _ _ _ => attemptsAfter_nil rfl

end

theorem term_blames : Blames term := by
  intro c hnone
  unfold term at hnone ⊢
  split at hnone
  · simp [miss]
  · split at hnone <;> simp_all [leaf, miss]

theorem word_blames : Blames word := blames_firstOf ⟨term, by simp, term_blames⟩

theorem endOfInput_blames : Blames endOfInput := by
  intro c hnone
  unfold endOfInput at hnone ⊢
  split at hnone <;> simp_all [miss]

end Token

/-! ## Productions that fail -/

namespace Grammar

open Reader Token

/-- The last thing that is tried for a condition is a word. -/
theorem conditionWith_blames (condition : Reader Tree) : Blames (conditionWith condition) :=
  blames_firstOf ⟨detachedCondition, by simp,
    Blames.node _ (word_blames.bind fun _ => blames_of_result (by simp))⟩

theorem many_blames {α : Type} (read : Reader α) : Blames (many read) := by
  refine blames_of_result fun c => ?_
  induction hn : c.rest.length using Nat.strongRecOn generalizing c with
  | _ n ih =>
    rw [result_many]
    split
    · simp
    · split
      · rename_i hlt
        simpa using ih _ (hn ▸ hlt) _ rfl
      · simp

theorem list_blames : Blames (list condition) := by
  refine Blames.node _ (Blames.bind ?_ fun _ => ?_)
  · intro c hnone
    rw [condition_eq] at hnone ⊢
    exact conditionWith_blames condition c hnone
  · exact (blames_of_result (by simp)).bind fun _ => (many_blames _).bind fun _ =>
      blames_of_result (by simp)

theorem query_blames : Blames query := by
  have hspaces : Blames spaces := blames_of_result fun c => by simp [spaces]
  refine Blames.node _ (hspaces.bind fun _ => list_blames.bind fun _ => hspaces.bind fun _ => ?_)
  exact endOfInput_blames.bind fun _ => blames_of_result (by simp)

end Grammar

end SearchQuery
