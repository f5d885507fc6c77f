import Mathlib.Data.List.Chain
import SearchQuery.Markup

/-! # The fragments of a text are the text -/

namespace SearchQuery

namespace Pattern

/-! ## Rounds -/

/-- Where the splitting of a piece stands: what comes before `last` is settled, and the next match is
looked for from `search` on. -/
structure Cursors where
  last : Nat
  search : Nat

variable {p : Pattern} {piece : Text} {c next : Cursors} {settled : List Fragment}

/-- The fragments that one round settles, and where it leaves the cursors. There is no round if no
match is left. -/
def round (p : Pattern) (piece : Text) (c : Cursors) : Option (List Fragment × Cursors) :=
  match p.matcher piece c.search with
  | none => none
  | some m =>
    if p.rejects m then
      if m.start < piece.length then some ([], ⟨c.last, m.start + 1⟩) else none
    else
      some ([⟨.neutral, (piece.drop c.last).take (m.start - c.last)⟩,
        ⟨p.kind, (piece.drop m.start).take (m.stop - m.start)⟩], ⟨m.stop, m.stop⟩)

theorem splitFrom_eq (p : Pattern) (piece : Text) (c : Cursors) :
    p.splitFrom piece c.last c.search =
      match p.round piece c with
      | none => [⟨.neutral, piece.drop c.last⟩]
      | some (settled, next) => settled ++ p.splitFrom piece next.last next.search := by
  conv_lhs => unfold splitFrom
  unfold round
  cases hm : p.matcher piece c.search with
  | none => rfl
  | some m =>
    by_cases hr : p.rejects m
    · by_cases hlt : m.start < piece.length
      · simp [hr, hlt]
      · simp [hr, hlt]
    · simp [hr]

/-- What a round does: it moves on inside the piece and settles a stretch of it, at most one token with
the neutral text in front. -/
structure Settles (p : Pattern) (piece : Text) (c next : Cursors) (settled : List Fragment) :
    Prop where
  advances : c.search < next.search
  search_le : next.search ≤ piece.length
  last_le : next.last ≤ next.search
  text_eq : settled.flatMap Fragment.text ++ piece.drop next.last = piece.drop c.last
  shape : settled = [] ∨ ∃ t token, settled = [⟨.neutral, t⟩, ⟨p.kind, token⟩] ∧ token ≠ []

theorem drop_eq_append (piece : Text) {start stop : Nat} (h : start ≤ stop) :
    (piece.drop start).take (stop - start) ++ piece.drop stop = piece.drop start := by
  have hstop : piece.drop stop = (piece.drop start).drop (stop - start) := by
    rw [List.drop_drop, Nat.add_sub_cancel' h]
  rw [hstop, List.take_append_drop]

theorem round_settles (h : p.round piece c = some (settled, next)) (hlast : c.last ≤ c.search) :
    p.Settles piece c next settled := by
  unfold round at h
  split at h
  · simp at h
  next m hm =>
  have hsearch := m.search_le
  have hstart := m.start_le
  have hstop := m.stop_le
  split at h
  · split at h
    · next hlt =>
      simp only [Option.some.injEq, Prod.mk.injEq] at h
      obtain ⟨rfl, rfl⟩ := h
      exact ⟨by simp only; omega, by simp only; omega, by simp only; omega, rfl, .inl rfl⟩
    · simp at h
  · next hr =>
    simp only [Option.some.injEq, Prod.mk.injEq] at h
    obtain ⟨rfl, rfl⟩ := h
    have hne : m.start ≠ m.stop := fun heq => hr (by simp [rejects, heq])
    refine ⟨by simp only; omega, by simp only; omega, le_rfl, ?_, .inr ⟨_, _, rfl, ?_⟩⟩
    · simp only [List.flatMap_cons, List.flatMap_nil, List.append_nil, List.append_assoc]
      rw [drop_eq_append piece hstart, drop_eq_append piece (by omega)]
    · rw [← List.length_pos_iff, List.length_take, List.length_drop]
      omega

/-- What holds at the end of a piece and is kept by every round holds of the whole splitting. -/
theorem splitFrom_induction {motive : Cursors → List Fragment → Prop}
    (done : ∀ c : Cursors, motive c [⟨.neutral, piece.drop c.last⟩])
    (step : ∀ c next settled rest, p.Settles piece c next settled → motive next rest →
      motive c (settled ++ rest)) (c : Cursors) (hlast : c.last ≤ c.search) :
    motive c (p.splitFrom piece c.last c.search) := by
  induction hn : piece.length - c.search using Nat.strong_induction_on generalizing c with
  | _ n ih =>
    rw [splitFrom_eq]
    cases hround : p.round piece c with
    | none => exact done c
    | some found =>
      obtain ⟨settled, next⟩ := found
      have hs := round_settles hround hlast
      have hadvances := hs.advances
      have hle := hs.search_le
      exact step c next settled _ hs (ih _ (by omega) next hs.last_le rfl)

/-- The splitting as a loop that is stopped after a number of rounds. -/
def loop (p : Pattern) (piece : Text) : Nat → Cursors → Option (List Fragment)
  | 0, _ => none
  | rounds + 1, c =>
    match p.round piece c with
    | none => some [⟨.neutral, piece.drop c.last⟩]
    | some (settled, next) => (loop p piece rounds next).map (settled ++ ·)

/-- There are no more rounds than characters to search, and one to find that nothing is left. -/
theorem loop_eq {rounds : Nat} (hlast : c.last ≤ c.search)
    (h : piece.length - c.search < rounds) :
    p.loop piece rounds c = some (p.splitFrom piece c.last c.search) := by
  induction rounds generalizing c with
  | zero => omega
  | succ rounds ih =>
    rw [loop, splitFrom_eq]
    cases hround : p.round piece c with
    | none => rfl
    | some found =>
      obtain ⟨settled, next⟩ := found
      have hs := round_settles hround hlast
      have hadvances := hs.advances
      have hle := hs.search_le
      simp only
      rw [ih hs.last_le (by omega)]
      rfl

end Pattern

/-! ## Laced fragments -/

/-- Neutral fragments, possibly empty, with one token between each two of them. -/
inductive Laced : List Fragment → Prop
  | neutral (t : Text) : Laced [⟨.neutral, t⟩]
  | token {f : Fragment} {rest : List Fragment} (t : Text) (hkind : f.kind ≠ .neutral)
      (htext : f.text ≠ []) (h : Laced rest) : Laced (⟨.neutral, t⟩ :: f :: rest)

theorem Laced.append {fs rest : List Fragment} {f : Fragment} (h : Laced fs)
    (hkind : f.kind ≠ .neutral) (htext : f.text ≠ []) (hrest : Laced rest) :
    Laced (fs ++ f :: rest) := by
  induction h with
  | neutral t => exact .token t hkind htext hrest
  | token t hkind' htext' _ ih => exact .token t hkind' htext' ih

/-- Two fragments that are not both neutral. -/
def Apart (f g : Fragment) : Prop := ¬ (f.kind = .neutral ∧ g.kind = .neutral)

theorem apart_left {f : Fragment} (h : f.kind ≠ .neutral) (g : Fragment) : Apart f g :=
  fun both => h both.1

theorem apart_right {g : Fragment} (h : g.kind ≠ .neutral) (f : Fragment) : Apart f g :=
  fun both => h both.2

def dropEmpty (fs : List Fragment) : List Fragment := fs.filter (!·.text.isEmpty)

theorem dropEmpty_append (fs rest : List Fragment) :
    dropEmpty (fs ++ rest) = dropEmpty fs ++ dropEmpty rest := List.filter_append ..

theorem dropEmpty_token {f : Fragment} (h : f.text ≠ []) (rest : List Fragment) :
    dropEmpty (f :: rest) = f :: dropEmpty rest := by
  simp [dropEmpty, h]

theorem dropEmpty_text (fs : List Fragment) :
    (dropEmpty fs).flatMap Fragment.text = fs.flatMap Fragment.text := by
  induction fs with
  | nil => rfl
  | cons f fs ih =>
    by_cases h : f.text = []
    · simpa [dropEmpty, h] using ih
    · rw [dropEmpty_token h, List.flatMap_cons, ih, List.flatMap_cons]

theorem Laced.apart {fs : List Fragment} (h : Laced fs) : (dropEmpty fs).IsChain Apart := by
  induction h with
  | neutral t =>
    by_cases ht : t = []
    · simp [dropEmpty, ht]
    · simp [dropEmpty, ht]
  | @token f rest t hkind htext _ ih =>
    have hrest : (f :: dropEmpty rest).IsChain Apart :=
      ih.cons fun g _ => apart_left hkind g
    by_cases ht : t = []
    · simpa [dropEmpty, ht, htext] using hrest
    · rw [dropEmpty_token (by simpa using ht), dropEmpty_token htext]
      refine hrest.cons ?_
      intro g hg
      obtain rfl : f = g := by simpa using hg
      exact apart_right hkind _

/-! ## Patterns -/

namespace Pattern

variable {p : Pattern}

theorem split_text (p : Pattern) (piece : Text) :
    (p.split piece).flatMap Fragment.text = piece := by
  refine splitFrom_induction (motive := fun c fs => fs.flatMap Fragment.text = piece.drop c.last)
    ?_ ?_ ⟨0, 0⟩ le_rfl
  · intro c
    simp
  · intro c next settled rest hs ih
    rw [List.flatMap_append, ih, hs.text_eq]

theorem laced_split (hkind : p.kind ≠ .neutral) (piece : Text) : Laced (p.split piece) := by
  refine splitFrom_induction (motive := fun _ fs => Laced fs) ?_ ?_ ⟨0, 0⟩ le_rfl
  · intro c
    exact .neutral _
  · intro c next settled rest hs ih
    rcases hs.shape with rfl | ⟨t, token, rfl, htoken⟩
    · exact ih
    · exact .token t hkind htoken ih

theorem refine_cons (p : Pattern) (t : Text) (rest : List Fragment) :
    p.refine (⟨.neutral, t⟩ :: rest) = p.split t ++ p.refine rest := by
  simp [refine]

theorem refine_token (p : Pattern) {f : Fragment} (h : f.kind ≠ .neutral) (rest : List Fragment) :
    p.refine (f :: rest) = f :: p.refine rest := by
  simp [refine, h]

theorem refine_text (p : Pattern) (fs : List Fragment) :
    (p.refine fs).flatMap Fragment.text = fs.flatMap Fragment.text := by
  unfold refine
  rw [List.flatMap_assoc]
  congr 1
  funext f
  split
  · exact split_text p f.text
  · simp

theorem laced_refine (hkind : p.kind ≠ .neutral) {fs : List Fragment} (h : Laced fs) :
    Laced (p.refine fs) := by
  induction h with
  | neutral t => simpa [refine] using laced_split hkind t
  | token t hkind' htext _ ih =>
    rw [refine_cons, refine_token p hkind']
    exact (laced_split hkind t).append hkind' htext ih

end Pattern

/-! ## Highlighters -/

namespace Highlighter

/-- The fragments of a text, the empty ones with them. -/
def refineAll (patterns : List Pattern) (fs : List Fragment) : List Fragment :=
  patterns.foldl (fun fragments p => p.refine fragments) fs

theorem refineAll_text (patterns : List Pattern) (fs : List Fragment) :
    (refineAll patterns fs).flatMap Fragment.text = fs.flatMap Fragment.text := by
  unfold refineAll
  induction patterns generalizing fs with
  | nil => rfl
  | cons p patterns ih => rw [List.foldl_cons, ih, p.refine_text]

theorem laced_refineAll {patterns : List Pattern} (hkinds : ∀ p ∈ patterns, p.kind ≠ .neutral)
    {fs : List Fragment} (h : Laced fs) : Laced (refineAll patterns fs) := by
  unfold refineAll
  induction patterns generalizing fs with
  | nil => exact h
  | cons p patterns ih =>
    obtain ⟨hp, hpatterns⟩ := List.forall_mem_cons.mp hkinds
    exact ih hpatterns (p.laced_refine hp h)

theorem classify_eq (h : Highlighter) (t : Text) :
    h.classify t = dropEmpty (refineAll h.patterns [⟨.neutral, t⟩]) := rfl

/-- The highlighter after some changes of its keywords, the last one last. -/
def configured (calls : List (List Text)) : Highlighter := calls.foldl withKeywords default

theorem kind_of_keywordPattern {keywords : List Text} {p : Pattern}
    (h : keywordPattern? keywords = some p) : p.kind = .keyword := by
  unfold keywordPattern? at h
  split at h
  · simp at h
  · rw [← Option.some.inj h]

theorem withKeywords_kinds {h : Highlighter} (hkinds : ∀ p ∈ h.patterns, p.kind ≠ .neutral)
    (keywords : List Text) : ∀ p ∈ (h.withKeywords keywords).patterns, p.kind ≠ .neutral := by
  intro p hp
  unfold withKeywords at hp
  rcases List.mem_append.mp hp with hp | hp
  · exact hkinds p (List.mem_of_mem_filter hp)
  · rw [kind_of_keywordPattern (Option.mem_toList.mp hp)]
    decide

theorem configured_kinds (calls : List (List Text)) :
    ∀ p ∈ (configured calls).patterns, p.kind ≠ .neutral := by
  suffices ∀ h : Highlighter, (∀ p ∈ h.patterns, p.kind ≠ .neutral) →
      ∀ p ∈ (calls.foldl withKeywords h).patterns, p.kind ≠ .neutral from
    this default (by simp [default])
  induction calls with
  | nil => exact fun h hkinds => hkinds
  | cons keywords calls ih => exact fun h hkinds => ih _ (withKeywords_kinds hkinds keywords)

end Highlighter

/-- The fragments are the text, none of them is empty, and no two neighbours are both neutral. -/
structure Covers (t : Text) (fs : List Fragment) : Prop where
  text_eq : fs.flatMap Fragment.text = t
  filled : ∀ f ∈ fs, f.text ≠ []
  apart : fs.IsChain Apart

theorem covers_classify {h : Highlighter} (hkinds : ∀ p ∈ h.patterns, p.kind ≠ .neutral)
    (t : Text) : Covers t (h.classify t) := by
  rw [h.classify_eq]
  constructor
  · rw [dropEmpty_text, Highlighter.refineAll_text]
    simp
  · intro f hf
    simpa using List.of_mem_filter hf
  · exact (Highlighter.laced_refineAll hkinds (.neutral t)).apart

theorem highlight_plain {h : Highlighter} {t : Text} (hcovers : Covers t (h.classify t)) :
    highlight h Markup.plain t = t := hcovers.text_eq

/-- Highlighting loses nothing of a text, whatever keywords were set and whatever the patterns find,
and the splitting of every piece comes to its end. -/
theorem classify_covers_text :
    (∀ (calls : List (List Text)) (t : Text),
      Covers t ((Highlighter.configured calls).classify t) ∧
      highlight (Highlighter.configured calls) Markup.plain t = t) ∧
    (∀ h : Highlighter, (∀ p ∈ h.patterns, p.kind ≠ .neutral) → ∀ t : Text,
      Covers t (h.classify t) ∧ highlight h Markup.plain t = t) ∧
    ∀ (p : Pattern) (piece : Text) (rounds : Nat), piece.length < rounds →
      p.loop piece rounds ⟨0, 0⟩ = some (p.split piece) := by
  have hall : ∀ h : Highlighter, (∀ p ∈ h.patterns, p.kind ≠ .neutral) → ∀ t : Text,
      Covers t (h.classify t) ∧ highlight h Markup.plain t = t := by
    intro h hkinds t
    have hcovers := covers_classify hkinds t
    exact ⟨hcovers, highlight_plain hcovers⟩
  refine ⟨?_, hall, ?_⟩
  · intro calls t
    exact hall _ (Highlighter.configured_kinds calls) t
  · intro p piece rounds h
    exact Pattern.loop_eq le_rfl (by simpa using h)

end SearchQuery
