import SearchQuery.Grammar.Token

/-! # What readers do -/

namespace SearchQuery

/-! ## Sizes of texts -/

namespace Text

@[simp] theorem byteSize_nil : byteSize [] = 0 := rfl

@[simp] theorem byteSize_cons (c : Char) (t : Text) :
    byteSize (c :: t) = c.utf8Size + byteSize t := rfl

@[simp] theorem byteSize_append (t u : Text) : byteSize (t ++ u) = byteSize t + byteSize u := by
  induction t with
  | nil => simp
  | cons c t ih =>
    rw [List.cons_append, byteSize_cons, byteSize_cons, ih]
    omega

theorem byteSize_pos {t : Text} (h : t ≠ []) : 0 < byteSize t := by
  cases t with
  | nil => exact absurd rfl h
  | cons c rest =>
    have := c.utf8Size_pos
    simp only [byteSize_cons]
    omega

theorem splitAtByte_zero (t : Text) : splitAtByte 0 t = ([], t) := by
  cases t with
  | nil => rfl
  | cons c rest =>
    have := c.utf8Size_pos
    rw [splitAtByte, if_neg (by omega)]

theorem splitAtByte_append (t u : Text) : splitAtByte t.byteSize (t ++ u) = (t, u) := by
  induction t with
  | nil => exact splitAtByte_zero u
  | cons c rest ih =>
    rw [List.cons_append, splitAtByte, if_pos (by simp)]
    simp [ih]

/-- A character starts at the byte offset, or the text ends there. -/
def IsBoundary (t : Text) (offset : Nat) : Prop :=
  ∃ before after, t = before ++ after ∧ before.byteSize = offset

theorem slice_append (before s after : Text) :
    slice (before ++ (s ++ after)) before.byteSize (before.byteSize + s.byteSize) = s := by
  rw [slice, Nat.add_sub_cancel_left, splitAtByte_append, splitAtByte_append]

end Text

/-! ## Moving the cursor -/

namespace Cursor

/-- The text stands between the two cursors. -/
def Passes (c : Cursor) (s : Text) (c' : Cursor) : Prop :=
  c.rest = s ++ c'.rest ∧ c'.offset = c.offset + s.byteSize

theorem passes_nil (c : Cursor) : c.Passes [] c := by simp [Passes]

theorem Passes.trans {c c' c'' : Cursor} {s s' : Text} (h : c.Passes s c') (h' : c'.Passes s' c'') :
    c.Passes (s ++ s') c'' := by
  obtain ⟨hs, ho⟩ := h
  obtain ⟨hs', ho'⟩ := h'
  refine ⟨by rw [hs, hs', List.append_assoc], ?_⟩
  rw [ho', ho, Text.byteSize_append, Nat.add_assoc]

/-- The second cursor lies further on in the same text, or is the first one. -/
def Reaches (c c' : Cursor) : Prop :=
  ∃ taken, c.rest = taken ++ c'.rest ∧ c'.offset = c.offset + taken.byteSize

theorem Passes.eq_of_rest {c c' : Cursor} {s s' : Text} (h : c.Passes s c')
    (hrest : c.rest = s' ++ c'.rest) : s = s' :=
  List.append_cancel_right (h.1.symm.trans hrest)

theorem Passes.reaches {c c' : Cursor} {s : Text} (h : c.Passes s c') : c.Reaches c' := ⟨s, h⟩

theorem reaches_refl (c : Cursor) : c.Reaches c := c.passes_nil.reaches

theorem Reaches.trans {c c' c'' : Cursor} (h : c.Reaches c') (h' : c'.Reaches c'') :
    c.Reaches c'' := by
  obtain ⟨s, hs⟩ := h
  obtain ⟨s', hs'⟩ := h'
  exact (Passes.trans hs hs').reaches

theorem Reaches.length_le {c c' : Cursor} (h : c.Reaches c') : c'.rest.length ≤ c.rest.length := by
  obtain ⟨s, hs, -⟩ := h
  rw [hs, List.length_append]
  omega

theorem Reaches.offset_lt {c c' : Cursor} (h : c.Reaches c')
    (hlt : c'.rest.length < c.rest.length) : c.offset < c'.offset := by
  obtain ⟨s, hs, ho⟩ := h
  have hne : s ≠ [] := by
    rintro rfl
    rw [hs] at hlt
    simp at hlt
  have := Text.byteSize_pos hne
  omega

theorem past_rest {c : Cursor} {taken rest : Text} (h : c.rest = taken ++ rest) :
    c.past taken = ⟨c.offset + taken.byteSize, rest⟩ := by
  simp [past, h]

theorem passes_past {c : Cursor} {taken : Text} (h : taken <+: c.rest) :
    c.Passes taken (c.past taken) := by
  obtain ⟨rest, hrest⟩ := h
  exact ⟨by simp [past, ← hrest], rfl⟩

theorem reaches_past {c : Cursor} {taken : Text} (h : taken <+: c.rest) :
    c.Reaches (c.past taken) := (passes_past h).reaches

theorem slice_passes {c c₁ c₂ : Cursor} {s : Text} (h : c.Reaches c₁) (hs : c₁.Passes s c₂) :
    c.slice c₁.offset c₂.offset = s := by
  obtain ⟨before, hbefore, hoff⟩ := h
  have hstart : c₁.offset - c.offset = before.byteSize := by omega
  have hstop : c₂.offset - c.offset = before.byteSize + s.byteSize := by
    have := hs.2
    omega
  rw [slice, hstart, hstop, hbefore, hs.1, Text.slice_append]

theorem slice_offset {c c' : Cursor} {taken : Text} (hrest : c.rest = taken ++ c'.rest)
    (hoff : c'.offset = c.offset + taken.byteSize) : c.slice c.offset c'.offset = taken :=
  slice_passes c.reaches_refl ⟨hrest, hoff⟩

theorem Reaches.isBoundary {t : Text} {c : Cursor} (h : (start t).Reaches c) :
    t.IsBoundary c.offset := by
  obtain ⟨before, hrest, hoff⟩ := h
  exact ⟨before, c.rest, hrest, by simpa [start] using hoff.symm⟩

end Cursor

/-! ## Results -/

namespace Reader

variable {α β : Type}

@[simp] theorem result_pure (a : α) (c : Cursor) :
    ((pure a : Reader α) c).result = some (a, c) := rfl

theorem bind_of_none {read : Reader α} {c : Cursor} {tried : List Attempt}
    (h : read c = ⟨tried, none⟩) (next : α → Reader β) : (read >>= next) c = ⟨tried, none⟩ := by
  simp only [bind, h]

theorem bind_of_some {read : Reader α} {c c' : Cursor} {tried : List Attempt} {a : α}
    (h : read c = ⟨tried, some (a, c')⟩) (next : α → Reader β) :
    (read >>= next) c = ⟨tried ++ (next a c').attempts, (next a c').result⟩ := by
  simp only [bind, h]

@[simp] theorem result_bind (read : Reader α) (next : α → Reader β) (c : Cursor) :
    ((read >>= next) c).result = (read c).result.bind fun found => (next found.1 found.2).result := by
  cases h : read c with
  | mk tried result =>
    cases result with
    | none => rw [bind_of_none h]; rfl
    | some found => rw [bind_of_some h]; rfl

@[simp] theorem result_fail (c : Cursor) : ((fail : Reader α) c).result = none := rfl

@[simp] theorem result_miss (expected : Expected) (c : Cursor) :
    ((miss expected : Reader α) c).result = none := rfl

@[simp] theorem result_here (c : Cursor) : (here c).result = some (c, c) := rfl

@[simp] theorem result_firstOf_nil (c : Cursor) :
    (firstOf ([] : List (Reader α)) c).result = none := rfl

@[simp] theorem result_firstOf_cons (read : Reader α) (others : List (Reader α)) (c : Cursor) :
    (firstOf (read :: others) c).result = (read c).result.or (firstOf others c).result := by
  simp only [firstOf]
  split <;> simp_all

@[simp] theorem result_node (rule : Rule) (children : Reader (List Tree)) (c : Cursor) :
    (node rule children c).result = (children c).result.map fun found =>
      (⟨rule, c.offset, c.slice c.offset found.2.offset, found.1⟩, found.2) := rfl

@[simp] theorem result_leaf (rule : Rule) (taken : Text) (c : Cursor) :
    (leaf rule taken c).result = some (⟨rule, c.offset, taken, []⟩, c.past taken) := rfl

theorem result_many (read : Reader α) (c : Cursor) :
    (many read c).result =
      match (read c).result with
      | none => some ([], c)
      | some (a, c') =>
        if c'.rest.length < c.rest.length then
          (many read c').result.map fun found => (a :: found.1, found.2)
        else
          some ([a], c') := by
  rw [many]
  split <;> simp_all
  split <;> rfl

@[simp] theorem result_many_bind (read : Reader α) (next : List α → Reader β) (c : Cursor) :
    (((many read : Reader (List α)) >>= next) c).result =
      (many read c).result.bind fun found => (next found.1 found.2).result :=
  result_bind (many read) next c

/-! ## The record of failures -/

/-- Reading with the record of the furthest failure so far, which every attempt that fails on the way
is noted in. -/
def run (read : Reader α) (seen : Furthest) (c : Cursor) : Furthest × Option (α × Cursor) :=
  ((read c).attempts.foldl Furthest.note seen, (read c).result)

theorem run_pure (a : α) (seen : Furthest) (c : Cursor) :
    (pure a : Reader α).run seen c = (seen, some (a, c)) := rfl

theorem run_fail (seen : Furthest) (c : Cursor) : (fail : Reader α).run seen c = (seen, none) := rfl

theorem run_miss (expected : Expected) (seen : Furthest) (c : Cursor) :
    (miss expected : Reader α).run seen c = (seen.note ⟨c.offset, expected⟩, none) := rfl

theorem run_here (seen : Furthest) (c : Cursor) : here.run seen c = (seen, some (c, c)) := rfl

theorem run_leaf (rule : Rule) (taken : Text) (seen : Furthest) (c : Cursor) :
    (leaf rule taken).run seen c = (seen, some (⟨rule, c.offset, taken, []⟩, c.past taken)) := rfl

theorem run_node (rule : Rule) (children : Reader (List Tree)) (seen : Furthest) (c : Cursor) :
    (node rule children).run seen c =
      ((children.run seen c).1, (children.run seen c).2.map fun found =>
        (⟨rule, c.offset, c.slice c.offset found.2.offset, found.1⟩, found.2)) := rfl

/-- The second reader goes on with the record of the first. -/
theorem run_bind (read : Reader α) (next : α → Reader β) (seen : Furthest) (c : Cursor) :
    (read >>= next).run seen c =
      match read.run seen c with
      | (seen', none) => (seen', none)
      | (seen', some (a, c')) => (next a).run seen' c' := by
  cases h : read c with
  | mk tried result =>
    cases result with
    | none => simp only [run, bind_of_none h, h]
    | some found => simp only [run, bind_of_some h, h, List.foldl_append]

theorem run_firstOf_cons (read : Reader α) (others : List (Reader α)) (seen : Furthest)
    (c : Cursor) :
    (firstOf (read :: others)).run seen c =
      match read.run seen c with
      | (seen', some found) => (seen', some found)
      | (seen', none) => (firstOf others).run seen' c := by
  simp only [run, firstOf]
  split <;> simp_all

theorem run_many (read : Reader α) (seen : Furthest) (c : Cursor) :
    run (many read) seen c =
      match read.run seen c with
      | (seen', none) => (seen', some ([], c))
      | (seen', some (a, c')) =>
        if c'.rest.length < c.rest.length then
          match run (many read) seen' c' with
          | (seen'', later) => (seen'', later.map fun found => (a :: found.1, found.2))
        else
          (seen', some ([a], c')) := by
  unfold run
  rw [many]
  cases read c with
  | mk tried result =>
    cases result with
    | none => rfl
    | some found =>
      simp only
      split
      · rw [List.foldl_append]
      · rfl

/-! ## Readers that only move forward -/

/-- Whatever is read, the cursor after it lies further on in the same text. -/
def Forward (read : Reader α) : Prop :=
  ∀ c a c', (read c).result = some (a, c') → c.Reaches c'

theorem forward_pure (a : α) : Forward (pure a) := by
  intro c b c' h
  simp only [result_pure, Option.some.injEq, Prod.mk.injEq] at h
  rw [← h.2]
  exact c.reaches_refl

theorem forward_here : Forward here := by
  intro c b c' h
  simp only [result_here, Option.some.injEq, Prod.mk.injEq] at h
  rw [← h.2]
  exact c.reaches_refl

theorem Forward.bind {read : Reader α} {next : α → Reader β} (h : Forward read)
    (hnext : ∀ a, Forward (next a)) : Forward (read >>= next) := by
  intro c b c' hb
  simp only [result_bind, Option.bind_eq_some_iff] at hb
  obtain ⟨⟨a, c₁⟩, ha, hb⟩ := hb
  exact (h c a c₁ ha).trans (hnext a c₁ b c' hb)

theorem forward_firstOf {reads : List (Reader α)} (h : ∀ read ∈ reads, Forward read) :
    Forward (firstOf reads) := by
  induction reads with
  | nil =>
    intro c a c' ha
    simp at ha
  | cons read others ih =>
    intro c a c' ha
    simp only [result_firstOf_cons, Option.or_eq_some_iff] at ha
    rcases ha with ha | ⟨-, ha⟩
    · exact h read (by simp) c a c' ha
    · exact ih (fun r hr => h r (by simp [hr])) c a c' ha

theorem Forward.node {children : Reader (List Tree)} (rule : Rule) (h : Forward children) :
    Forward (node rule children) := by
  intro c t c' ht
  simp only [result_node, Option.map_eq_some_iff] at ht
  obtain ⟨⟨trees, c₁⟩, hc, heq⟩ := ht
  simp only [Prod.mk.injEq] at heq
  rw [← heq.2]
  exact h c trees c₁ hc

theorem Forward.many {read : Reader α} (h : Forward read) : Forward (many read) := by
  intro c as c' has
  -- The induction is on the text that is left.
  induction hn : c.rest.length using Nat.strongRecOn generalizing c as with
  | _ n ih =>
    rw [result_many] at has
    split at has
    · simp only [Option.some.injEq, Prod.mk.injEq] at has
      rw [← has.2]
      exact c.reaches_refl
    · rename_i a c₁ ha
      split at has
      · rename_i hlt
        obtain ⟨⟨as', c₂⟩, hm, heq⟩ := Option.map_eq_some_iff.mp has
        simp only [Prod.mk.injEq] at heq
        rw [heq.2] at hm
        exact (h c a c₁ ha).trans (ih _ (hn ▸ hlt) c₁ as' hm rfl)
      · simp only [Option.some.injEq, Prod.mk.injEq] at has
        rw [← has.2]
        exact h c a c₁ ha

end Reader

end SearchQuery
