import SearchQuery.Proofs.Fragments

/-! # Keywords refine neutral text -/

namespace SearchQuery

/-! ## Fragments without keywords -/

/-- A keyword as neutral text. -/
def Fragment.withoutKeyword (f : Fragment) : Fragment :=
  if f.kind = .keyword then ⟨.neutral, f.text⟩ else f

/-- Joins each run of neutral fragments. -/
def mergeNeutral : List Fragment → List Fragment
  | [] => []
  | f :: later =>
    match mergeNeutral later with
    | [] => [f]
    | g :: rest =>
      if f.kind = .neutral ∧ g.kind = .neutral then ⟨.neutral, f.text ++ g.text⟩ :: rest
      else f :: g :: rest

theorem mergeNeutral_cons_token {f : Fragment} (h : f.kind ≠ .neutral) (rest : List Fragment) :
    mergeNeutral (f :: rest) = f :: mergeNeutral rest := by
  rw [mergeNeutral]
  split
  · next hrest => rw [hrest]
  · next g rest' hrest => rw [if_neg (fun both => h both.1), hrest]

theorem mergeNeutral_append_token {f : Fragment} (h : f.kind ≠ .neutral)
    (fs rest : List Fragment) :
    mergeNeutral (fs ++ f :: rest) = mergeNeutral fs ++ f :: mergeNeutral rest := by
  induction fs with
  | nil => exact mergeNeutral_cons_token h rest
  | cons g fs ih =>
    rw [List.cons_append, mergeNeutral, ih, mergeNeutral]
    cases mergeNeutral fs with
    | nil => simp [h]
    | cons g' fs' =>
      simp only [List.cons_append]
      split <;> rfl

theorem mergeNeutral_neutral {fs : List Fragment}
    (h : ∀ f ∈ fs, f.kind = .neutral ∧ f.text ≠ []) :
    mergeNeutral fs = dropEmpty [⟨.neutral, fs.flatMap Fragment.text⟩] := by
  induction fs with
  | nil => rfl
  | cons f fs ih =>
    obtain ⟨⟨hkind, htext⟩, hfs⟩ := List.forall_mem_cons.mp h
    have hf : (⟨.neutral, f.text⟩ : Fragment) = f := by rw [← hkind]
    rw [mergeNeutral, ih hfs, List.flatMap_cons]
    generalize fs.flatMap Fragment.text = t
    by_cases ht : t = []
    · simp [dropEmpty, ht, htext, hf]
    · simp [dropEmpty, ht, hkind]

theorem mergeNeutral_of_apart {fs : List Fragment} (h : fs.IsChain Apart) :
    mergeNeutral fs = fs := by
  induction fs with
  | nil => rfl
  | cons f fs ih =>
    obtain ⟨hhead, hfs⟩ := List.isChain_cons.mp h
    rw [mergeNeutral, ih hfs]
    cases fs with
    | nil => rfl
    | cons g rest =>
      have hapart : Apart f g := hhead g rfl
      exact if_neg hapart

theorem tokens_mergeNeutral (fs : List Fragment) :
    (mergeNeutral fs).filter (·.kind ≠ .neutral) = fs.filter (·.kind ≠ .neutral) := by
  induction fs with
  | nil => rfl
  | cons f fs ih =>
    by_cases hf : f.kind = .neutral
    · rw [mergeNeutral, List.filter_cons_of_neg (by simp [hf]), ← ih]
      cases mergeNeutral fs with
      | nil => simp [hf]
      | cons g rest => by_cases hg : g.kind = .neutral <;> simp [hf, hg]
    · rw [mergeNeutral_cons_token hf, List.filter_cons_of_pos (by simp [hf]), ih,
        List.filter_cons_of_pos (by simp [hf])]

theorem tokens_withoutKeyword (fs : List Fragment) :
    (fs.map Fragment.withoutKeyword).filter (·.kind ≠ .neutral) =
      fs.filter (fun f => f.kind ≠ .neutral ∧ f.kind ≠ .keyword) := by
  induction fs with
  | nil => rfl
  | cons f fs ih =>
    unfold Fragment.withoutKeyword at ih ⊢
    by_cases hkeyword : f.kind = .keyword
    · simpa [hkeyword] using ih
    · by_cases hneutral : f.kind = .neutral
      · simpa [hkeyword, hneutral] using ih
      · simpa [hkeyword, hneutral] using ih

/-! ## The pattern of keywords -/

namespace Pattern

theorem kind_of_mem_split {p : Pattern} {piece : Text} :
    ∀ f ∈ p.split piece, f.kind = .neutral ∨ f.kind = p.kind := by
  refine splitFrom_induction
    (motive := fun _ fs => ∀ f ∈ fs, f.kind = .neutral ∨ f.kind = p.kind) ?_ ?_ ⟨0, 0⟩ le_rfl
  · simp
  · intro c next settled rest hs ih
    rcases hs.shape with rfl | ⟨t, token, rfl, -⟩
    · exact ih
    · simpa using ih

theorem kind_of_mem_refine {p : Pattern} {fs : List Fragment} {f : Fragment} (h : f ∈ p.refine fs) :
    f ∈ fs ∨ f.kind = .neutral ∨ f.kind = p.kind := by
  unfold refine at h
  obtain ⟨g, hg, hf⟩ := List.mem_flatMap.mp h
  split at hf
  · exact .inr (kind_of_mem_split f hf)
  · obtain rfl : f = g := by simpa using hf
    exact .inl hg

theorem merge_split {p : Pattern} (hp : p.kind = .keyword) (piece : Text) :
    mergeNeutral ((dropEmpty (p.split piece)).map Fragment.withoutKeyword) =
      dropEmpty [⟨.neutral, piece⟩] := by
  rw [mergeNeutral_neutral]
  · have htext : ∀ f : Fragment, f.withoutKeyword.text = f.text := by
      intro f
      unfold Fragment.withoutKeyword
      split <;> rfl
    rw [List.flatMap_map]
    simp only [htext]
    rw [dropEmpty_text, split_text]
  · intro f hf
    obtain ⟨g, hg, rfl⟩ := List.mem_map.mp hf
    have htext : g.text ≠ [] := by simpa using List.of_mem_filter hg
    have hkind := kind_of_mem_split g (List.mem_of_mem_filter hg)
    rw [hp] at hkind
    unfold Fragment.withoutKeyword
    rcases hkind with hkind | hkind <;> simp [hkind, htext]

theorem merge_refine {p : Pattern} (hp : p.kind = .keyword) {fs : List Fragment} (h : Laced fs)
    (hfs : ∀ f ∈ fs, f.kind ≠ .keyword) :
    mergeNeutral ((dropEmpty (p.refine fs)).map Fragment.withoutKeyword) = dropEmpty fs := by
  induction h with
  | neutral t => simpa [refine] using merge_split hp t
  | @token f rest t hkind htext _ ih =>
    simp only [List.forall_mem_cons] at hfs
    obtain ⟨-, hf, hrest⟩ := hfs
    have hplain : f.withoutKeyword = f := by simp [Fragment.withoutKeyword, hf]
    rw [refine_cons, refine_token p hkind, dropEmpty_append, dropEmpty_token htext,
      List.map_append, List.map_cons, hplain, mergeNeutral_append_token hkind, merge_split hp,
      ih hrest, ← dropEmpty_token htext, ← dropEmpty_append]
    rfl

end Pattern

/-! ## Highlighters -/

namespace Highlighter

theorem default_kinds : ∀ p ∈ default.patterns, p.kind ≠ .neutral ∧ p.kind ≠ .keyword := by
  simp [default]

theorem default_without_keywords :
    default.patterns.filter (·.kind ≠ .keyword) = default.patterns := by
  simp [default]

theorem configured_without_keywords (calls : List (List Text)) :
    (configured calls).patterns.filter (·.kind ≠ .keyword) = default.patterns := by
  suffices ∀ h : Highlighter, h.patterns.filter (·.kind ≠ .keyword) = default.patterns →
      (calls.foldl withKeywords h).patterns.filter (·.kind ≠ .keyword) = default.patterns from
    this default default_without_keywords
  induction calls with
  | nil => exact fun h hh => hh
  | cons keywords calls ih =>
    intro h hh
    apply ih
    have hnone : (keywordPattern? keywords).toList.filter (·.kind ≠ .keyword) = [] := by
      rw [List.filter_eq_nil_iff]
      intro p hp
      simp [kind_of_keywordPattern (Option.mem_toList.mp hp)]
    rw [withKeywords, List.filter_append, hnone, List.append_nil, List.filter_filter]
    simpa using hh

theorem configured_concat (calls : List (List Text)) (last : List Text) :
    configured (calls ++ [last]) = default.withKeywords last := by
  have hcalls := configured_without_keywords calls
  unfold configured at *
  rw [List.foldl_concat, withKeywords, hcalls, withKeywords, default_without_keywords]

theorem withKeywords_patterns (keywords : List Text) :
    (default.withKeywords keywords).patterns =
      default.patterns ++ (keywordPattern? keywords).toList := by
  rw [withKeywords, default_without_keywords]

theorem kind_refineAll {kind : TokenClass} (hkind : kind ≠ .neutral) {patterns : List Pattern}
    (hpatterns : ∀ p ∈ patterns, p.kind ≠ kind) {fs : List Fragment} (hfs : ∀ f ∈ fs, f.kind ≠ kind) :
    ∀ f ∈ refineAll patterns fs, f.kind ≠ kind := by
  unfold refineAll
  induction patterns generalizing fs with
  | nil => exact hfs
  | cons p patterns ih =>
    obtain ⟨hp, hpatterns⟩ := List.forall_mem_cons.mp hpatterns
    apply ih hpatterns
    intro f hf
    rcases p.kind_of_mem_refine hf with hf | hf | hf
    · exact hfs f hf
    · rw [hf]
      exact hkind.symm
    · rw [hf]
      exact hp

theorem not_keyword_of_default (t : Text) :
    ∀ f ∈ refineAll default.patterns [⟨.neutral, t⟩], f.kind ≠ .keyword :=
  kind_refineAll (by decide) (fun p hp => (default_kinds p hp).2) (by simp)

/-- Without its keywords, a text has its default fragments. -/
theorem merge_classify (keywords : List Text) (t : Text) :
    mergeNeutral (((default.withKeywords keywords).classify t).map Fragment.withoutKeyword) =
      default.classify t := by
  have hkeyword := not_keyword_of_default t
  have hlaced : Laced (refineAll default.patterns [⟨.neutral, t⟩]) :=
    laced_refineAll (fun p hp => (default_kinds p hp).1) (.neutral t)
  rw [classify_eq, classify_eq, withKeywords_patterns]
  cases hp : keywordPattern? keywords with
  | none =>
    rw [Option.toList_none, List.append_nil]
    have hplain : ∀ f ∈ dropEmpty (refineAll default.patterns [⟨.neutral, t⟩]),
        f.withoutKeyword = f :=
      fun f hf => if_neg (hkeyword f (List.mem_of_mem_filter hf))
    rw [List.map_congr_left hplain, List.map_id', mergeNeutral_of_apart hlaced.apart]
  | some p =>
    rw [Option.toList_some, refineAll, List.foldl_concat]
    exact Pattern.merge_refine (kind_of_keywordPattern hp) hlaced hkeyword

theorem withKeywords_of_empty {keywords : List Text} (h : ∀ w ∈ keywords, w = []) :
    default.withKeywords keywords = default := by
  have hnone : keywordPattern? keywords = none := by
    have hfilter : keywords.filter (!·.isEmpty) = [] := by
      rw [List.filter_eq_nil_iff]
      intro w hw
      simp [h w hw]
    rw [keywordPattern?, hfilter]
  rw [withKeywords, default_without_keywords, hnone]
  rfl

theorem tokens_classify (keywords : List Text) (t : Text) :
    ((default.withKeywords keywords).classify t).filter
        (fun f => f.kind ≠ .neutral ∧ f.kind ≠ .keyword) =
      (default.classify t).filter (·.kind ≠ .neutral) := by
  rw [← merge_classify keywords t, tokens_mergeNeutral, tokens_withoutKeyword]

end Highlighter

/-- Only the keywords that were set last count, and they claim nothing but neutral text. -/
theorem keywords_refine_neutral (calls : List (List Text)) (last : List Text) (t : Text) :
    (Highlighter.configured (calls ++ [last])).classify t =
      (Highlighter.default.withKeywords last).classify t ∧
    mergeNeutral (((Highlighter.configured (calls ++ [last])).classify t).map
      Fragment.withoutKeyword) = Highlighter.default.classify t ∧
    ((Highlighter.configured (calls ++ [last])).classify t).filter
        (fun f => f.kind ≠ .neutral ∧ f.kind ≠ .keyword) =
      (Highlighter.default.classify t).filter (·.kind ≠ .neutral) ∧
    ((∀ w ∈ last, w = []) →
      (Highlighter.configured (calls ++ [last])).classify t = Highlighter.default.classify t) := by
  rw [Highlighter.configured_concat]
  refine ⟨rfl, Highlighter.merge_classify last t, Highlighter.tokens_classify last t, ?_⟩
  intro h
  rw [Highlighter.withKeywords_of_empty h]

end SearchQuery
