import Mathlib.Data.List.SplitBy
import Mathlib.Data.List.TakeWhile
import SearchQuery.Proofs.Keywords
import SearchQuery.Proofs.Stepping

/-! # Keywords are whole words -/

namespace SearchQuery

/-! ## Words -/

def IsAscii (t : Text) : Prop := ∀ c ∈ t, c.toNat < 128

instance (t : Text) : Decidable (IsAscii t) :=
  decidable_of_iff (t.all (·.toNat < 128)) (by simp [IsAscii])

/-- Letters, digits and underscores, at least one of them. -/
structure IsAsciiWord (w : Text) : Prop where
  filled : w ≠ []
  chars : ∀ c ∈ w, isAsciiWordChar c = true

instance (w : Text) : Decidable (IsAsciiWord w) :=
  decidable_of_iff (w ≠ [] ∧ w.all isAsciiWordChar)
    ⟨fun h => ⟨h.1, List.all_eq_true.mp h.2⟩, fun h => ⟨h.filled, List.all_eq_true.mpr h.chars⟩⟩

/-- The text is one of the words, but for the case of its letters. -/
def isOneOf (words : List Text) (t : Text) : Bool :=
  words.any fun w => w.map Char.toLower = t.map Char.toLower

/-- The longest runs of word characters in a text, and the longest runs of others between them. -/
def runs (t : Text) : List Text := t.splitBy fun a b => isAsciiWordChar a == isAsciiWordChar b

/-- A text in which the words that are among the given ones are keywords, and all else is neutral. -/
def markWords (words : List Text) (t : Text) : List Fragment :=
  mergeNeutral ((runs t).map fun run => ⟨if isOneOf words run then .keyword else .neutral, run⟩)

example : markWords ["ab", "abc"] "ab_c AB,abc" =
    [⟨.neutral, "ab_c "⟩, ⟨.keyword, "AB"⟩, ⟨.neutral, ","⟩, ⟨.keyword, "abc"⟩] := by decide

/-! ## Case -/

theorem forall_ascii {P : Char → Prop} (h : ∀ n < 128, P (Char.ofNat n)) {c : Char}
    (hc : c.toNat < 128) : P c := by
  have hn := h c.toNat hc
  rwa [Char.ofNat_toNat] at hn

theorem foldCase_of_ascii {c : Char} (h : c.toNat < 128) : foldCase c = c.toLower.toNat :=
  forall_ascii (P := fun c => foldCase c = c.toLower.toNat) (by decide) h

theorem isAsciiWordChar_toLower {c : Char} (h : c.toNat < 128) :
    isAsciiWordChar c.toLower = isAsciiWordChar c :=
  forall_ascii (P := fun c => isAsciiWordChar c.toLower = isAsciiWordChar c) (by decide) h

theorem toNat_lt_of_isAsciiWordChar {c : Char} (h : isAsciiWordChar c = true) : c.toNat < 128 := by
  delta isAsciiWordChar Char.isAlphanum Char.isAlpha Char.isUpper Char.isLower Char.isDigit at h
  simp only [Bool.or_eq_true, Bool.and_eq_true, decide_eq_true_eq, ge_iff_le,
    UInt32.le_iff_toNat_le] at h
  rcases h with h | rfl
  · simp at h
    omega
  · decide

theorem IsAsciiWord.isAscii {w : Text} (h : IsAsciiWord w) : IsAscii w :=
  fun c hc => toNat_lt_of_isAsciiWordChar (h.chars c hc)

theorem sameButCase_iff {a b : Char} (ha : a.toNat < 128) (hb : b.toNat < 128) :
    sameButCase a b = true ↔ a.toLower = b.toLower := by
  rw [sameButCase, foldCase_of_ascii ha, foldCase_of_ascii hb, decide_eq_true_iff, Char.toNat_inj]

theorem startsWithWord_iff {w t : Text} (hw : IsAscii w) (ht : IsAscii t) :
    Recognizer.startsWithWord w t = true ↔ w.map Char.toLower = (t.take w.length).map Char.toLower := by
  induction w generalizing t with
  | nil => simp [Recognizer.startsWithWord]
  | cons a w ih =>
    cases t with
    | nil => simp [Recognizer.startsWithWord]
    | cons b t =>
      obtain ⟨ha, hw⟩ := List.forall_mem_cons.mp hw
      obtain ⟨hb, ht⟩ := List.forall_mem_cons.mp ht
      simp [Recognizer.startsWithWord, sameButCase_iff ha hb, ih hw ht]

theorem IsAsciiWord.of_map_toLower {w t : Text} (hw : IsAsciiWord w) (ht : IsAscii t)
    (h : w.map Char.toLower = t.map Char.toLower) : IsAsciiWord t := by
  constructor
  · rintro rfl
    exact hw.filled (List.map_eq_nil_iff.mp h)
  · intro c hc
    have hmem : c.toLower ∈ w.map Char.toLower := h ▸ List.mem_map_of_mem hc
    obtain ⟨d, hd, heq⟩ := List.mem_map.mp hmem
    rw [← isAsciiWordChar_toLower (ht c hc), ← heq, isAsciiWordChar_toLower (hw.isAscii d hd)]
    exact hw.chars d hd

/-! ## What is claimed -/

namespace Recognizer

/-- The word that a text starts with. -/
def firstWord (t : Text) : Text := t.takeWhile isAsciiWordChar

theorem isAt_eq_false {p : Char → Bool} {o : Option Char} (h : ∀ c ∈ o, p c = false) :
    isAt p o = false := by
  cases o with
  | none => rfl
  | some c => exact h c rfl

theorem firstWord_of_head? {t : Text} (h : isAt isAsciiWordChar t.head? = false) :
    firstWord t = [] := by
  cases t with
  | nil => rfl
  | cons c t => exact List.takeWhile_cons_of_neg (by simpa [isAt] using h)

theorem firstWord_append {run rest : Text} (hrun : ∀ c ∈ run, isAsciiWordChar c = true)
    (hrest : isAt isAsciiWordChar rest.head? = false) : firstWord (run ++ rest) = run := by
  have hnone := firstWord_of_head? hrest
  unfold firstWord at *
  rw [List.takeWhile_append_of_pos hrun, hnone, List.append_nil]

theorem exists_firstWord (t : Text) :
    ∃ word rest, t = word ++ rest ∧ firstWord t = word ∧
      isAt isAsciiWordChar rest.head? = false := by
  refine ⟨firstWord t, t.dropWhile isAsciiWordChar, List.takeWhile_append_dropWhile.symm, rfl, ?_⟩
  have hhead := List.head?_dropWhile_not isAsciiWordChar t
  cases h : (t.dropWhile isAsciiWordChar).head? with
  | none => rfl
  | some c =>
    rw [h] at hhead
    exact hhead

theorem startsWithWord_and_end_iff {w t : Text} (hw : IsAsciiWord w) (ht : IsAscii t) :
    startsWithWord w t = true ∧ isAt isAsciiWordChar (t.drop w.length).head? = false ↔
      w.map Char.toLower = (firstWord t).map Char.toLower := by
  rw [startsWithWord_iff hw.isAscii ht]
  constructor
  · rintro ⟨hsame, hend⟩
    have htoken : IsAsciiWord (t.take w.length) :=
      hw.of_map_toLower (fun c hc => ht c (List.mem_of_mem_take hc)) hsame
    have hfirst := firstWord_append htoken.chars hend
    rw [List.take_append_drop] at hfirst
    rw [hfirst]
    exact hsame
  · intro hsame
    obtain ⟨first, rest, rfl, hfirst, hend⟩ := exists_firstWord t
    rw [hfirst] at hsame
    have hlength : w.length = first.length := by simpa using congrArg List.length hsame
    rw [hlength, List.take_left, List.drop_left]
    exact ⟨hsame, hend⟩

theorem claim_wholeWord_eq (w : Text) (before : Option Char) (t : Text) :
    (wholeWord w).claim before t =
      if isAt isAsciiWordChar before ≠ isAt isAsciiWordChar t.head? ∧ startsWithWord w t = true ∧
        isAt isAsciiWordChar ((t.take w.length).getLast?.or before) ≠
          isAt isAsciiWordChar (t.drop w.length).head? then some w.length else none := by
  change (append (append boundary (word w)) boundary).claim before t = _
  simp only [append, boundary, word]
  by_cases hbefore : isAt isAsciiWordChar before = isAt isAsciiWordChar t.head?
  · simp [hbefore]
  · by_cases hword : startsWithWord w t = true
    · by_cases hafter : isAt isAsciiWordChar ((t.take w.length).getLast?.or before) =
        isAt isAsciiWordChar (t.drop w.length).head?
      · simp [hbefore, hword, hafter]
      · simp [hbefore, hword, hafter, -List.head?_drop]
    · simp [hbefore, hword]

theorem isAt_head?_append {w : Text} (h : IsAsciiWord w) (rest : Text) :
    isAt isAsciiWordChar (w ++ rest).head? = true := by
  obtain ⟨c, later, rfl⟩ := List.exists_cons_of_ne_nil h.filled
  exact h.chars c List.mem_cons_self

theorem isAt_getLast?_or {w : Text} (h : IsAsciiWord w) (before : Option Char) :
    isAt isAsciiWordChar (w.getLast?.or before) = true := by
  rw [List.getLast?_eq_some_getLast h.filled]
  exact h.chars _ (List.getLast_mem h.filled)

theorem claim_wholeWord {w t : Text} (hw : IsAsciiWord w) (ht : IsAscii t) (before : Option Char) :
    (wholeWord w).claim before t =
      if isAt isAsciiWordChar before = false ∧
        w.map Char.toLower = (firstWord t).map Char.toLower then some w.length else none := by
  rw [claim_wholeWord_eq]
  refine if_congr ?_ rfl rfl
  rw [← startsWithWord_and_end_iff hw ht]
  by_cases hstarts : startsWithWord w t = true
  · have htoken : IsAsciiWord (t.take w.length) :=
      hw.of_map_toLower (fun c hc => ht c (List.mem_of_mem_take hc))
        ((startsWithWord_iff hw.isAscii ht).mp hstarts)
    -- The text starts with a word character, and one stands last in what is claimed.
    have hhead := isAt_head?_append htoken (t.drop w.length)
    have hlast := isAt_getLast?_or htoken before
    rw [List.take_append_drop] at hhead
    rw [hhead, hlast]
    simp [hstarts, -List.head?_drop]
  · simp [hstarts]

theorem claim_keyword {words : List Text} (hwords : ∀ w ∈ words, IsAsciiWord w) {t : Text}
    (ht : IsAscii t) (before : Option Char) :
    (keyword words).claim before t =
      if isAt isAsciiWordChar before = false ∧ isOneOf words (firstWord t) = true then
        some (firstWord t).length else none := by
  induction words with
  | nil => simp [keyword, oneOf, never, isOneOf]
  | cons w words ih =>
    obtain ⟨hw, hwords⟩ := List.forall_mem_cons.mp hwords
    have hrest := ih hwords
    have hclaim : (keyword (w :: words)).claim before t =
        ((wholeWord w).claim before t).or ((keyword words).claim before t) := rfl
    rw [hclaim, claim_wholeWord hw ht, hrest]
    by_cases hbefore : isAt isAsciiWordChar before = false
    · by_cases hsame : w.map Char.toLower = (firstWord t).map Char.toLower
      · have hlength : w.length = (firstWord t).length := by simpa using congrArg List.length hsame
        simp [isOneOf, hbefore, hsame, hlength]
      · simp [isOneOf, hbefore, hsame]
    · simp [hbefore]

end Recognizer

/-! ## Runs -/

theorem runs_append {isWord : Bool} {run rest : Text} (hne : run ≠ [])
    (hrun : ∀ c ∈ run, isAsciiWordChar c = isWord)
    (hrest : ∀ c ∈ rest.head?, isAsciiWordChar c = !isWord) : runs (run ++ rest) = run :: runs rest := by
  have hchain : run.IsChain fun a b => (isAsciiWordChar a == isAsciiWordChar b) = true := by
    apply List.Pairwise.isChain
    apply List.pairwise_of_forall_mem_list
    intro a ha b hb
    simp [hrun a ha, hrun b hb]
  have hborder : ∀ a ∈ run.getLast?, ∀ b ∈ rest.head?,
      (isAsciiWordChar a == isAsciiWordChar b) = false := by
    intro a ha b hb
    simp [hrun a (List.mem_of_getLast? ha), hrest b hb]
  unfold runs
  rw [List.splitBy_append hborder, List.splitBy_of_isChain hne hchain, List.singleton_append]

/-- A text is built up from its runs. -/
theorem runs_induction {motive : Text → Prop} (nil : motive [])
    (append : ∀ (isWord : Bool) (run rest : Text), run ≠ [] →
      (∀ c ∈ run, isAsciiWordChar c = isWord) → (∀ c ∈ rest.head?, isAsciiWordChar c = !isWord) →
      motive rest → motive (run ++ rest)) (t : Text) : motive t := by
  induction hn : t.length using Nat.strong_induction_on generalizing t with
  | _ n ih =>
    cases t with
    | nil => exact nil
    | cons c t =>
      let same : Char → Bool := fun d => isAsciiWordChar d == isAsciiWordChar c
      have hsplit : (c :: t).takeWhile same ++ (c :: t).dropWhile same = c :: t :=
        List.takeWhile_append_dropWhile
      have hne : (c :: t).takeWhile same ≠ [] := by simp [same]
      have hpos : 0 < ((c :: t).takeWhile same).length := List.length_pos_iff.mpr hne
      have hlength := congrArg List.length hsplit
      rw [List.length_append] at hlength
      rw [← hsplit]
      refine append (isAsciiWordChar c) _ _ hne ?_ ?_ (ih _ (by omega) _ rfl)
      · intro d hd
        simpa [same] using List.mem_takeWhile_imp hd
      · intro d hd
        have hhead := List.head?_dropWhile_not same (c :: t)
        rw [Option.mem_def.mp hd] at hhead
        rw [Bool.eq_not]
        simpa [same] using hhead

theorem flatten_runs (t : Text) : (runs t).flatten = t := List.flatten_splitBy _ t

theorem mergeNeutral_join (a b : Text) (rest : List Fragment) :
    mergeNeutral (⟨.neutral, a⟩ :: ⟨.neutral, b⟩ :: rest) =
      mergeNeutral (⟨.neutral, a ++ b⟩ :: rest) := by
  rw [mergeNeutral, mergeNeutral, mergeNeutral]
  cases mergeNeutral rest with
  | nil => simp
  | cons g rest =>
    by_cases hg : g.kind = .neutral
    · simp [hg]
    · simp [hg]

theorem mergeNeutral_passed {passed run : Text} (hne : run ≠ []) (rest : List Fragment) :
    mergeNeutral (dropEmpty [⟨.neutral, passed⟩] ++ ⟨.neutral, run⟩ :: rest) =
      mergeNeutral (dropEmpty [⟨.neutral, passed ++ run⟩] ++ rest) := by
  by_cases hpassed : passed = []
  · simp [dropEmpty, hpassed, hne]
  · simpa [dropEmpty, hpassed, hne] using mergeNeutral_join passed run rest

theorem dropEmpty_passed (passed : Text) {f : Fragment} (h : f.text ≠ []) (rest : List Fragment) :
    dropEmpty (⟨.neutral, passed⟩ :: f :: rest) =
      dropEmpty [⟨.neutral, passed⟩] ++ f :: dropEmpty rest := by
  rw [← dropEmpty_token h, ← dropEmpty_append, List.singleton_append]

theorem mergeNeutral_dropEmpty (t : Text) :
    mergeNeutral (dropEmpty [⟨.neutral, t⟩]) = dropEmpty [⟨.neutral, t⟩] :=
  mergeNeutral_of_apart (Laced.neutral t).apart

/-! ## Splitting at keywords -/

section

variable {words : List Text} (hwords : ∀ w ∈ words, IsAsciiWord w)
include hwords

theorem isOneOf_nil : isOneOf words [] = false := by
  rw [isOneOf, List.any_eq_false]
  intro w hw
  simp [(hwords w hw).filled]

theorem isAsciiWord_of_isOneOf {t : Text} (ht : IsAscii t) (h : isOneOf words t = true) :
    IsAsciiWord t := by
  obtain ⟨w, hw, hsame⟩ := List.any_eq_true.mp h
  exact (hwords w hw).of_map_toLower ht (by simpa using hsame)

theorem claim_of_isOneOf {run rest : Text} {before : Option Char} (hascii : IsAscii (run ++ rest))
    (hone : isOneOf words run = true) (hrest : Recognizer.isAt isAsciiWordChar rest.head? = false)
    (hbefore : Recognizer.isAt isAsciiWordChar before = false) :
    (Recognizer.keyword words).claim before (run ++ rest) = some run.length := by
  have hrun : IsAsciiWord run :=
    isAsciiWord_of_isOneOf hwords (fun c hc => hascii c (List.mem_append_left rest hc)) hone
  rw [Recognizer.claim_keyword hwords hascii, Recognizer.firstWord_append hrun.chars hrest,
    if_pos ⟨hbefore, hone⟩]

/-- Within a run that is no keyword, nothing is claimed: not at its start, where the whole run would have
to be claimed, and not behind a word character. -/
theorem claim_in_run {isWord : Bool} {run rest before front back : Text} {c : Char}
    (hascii : IsAscii (run ++ rest)) (hrun : ∀ d ∈ run, isAsciiWordChar d = isWord)
    (hrest : ∀ d ∈ rest.head?, isAsciiWordChar d = !isWord) (hone : isOneOf words run = false)
    (heq : run = front ++ c :: back) :
    (Recognizer.keyword words).claim (before ++ front).getLast? (c :: (back ++ rest)) = none := by
  have hascii' : IsAscii (c :: (back ++ rest)) := by
    intro d hd
    apply hascii d
    rw [heq, List.append_assoc]
    exact List.mem_append_right front hd
  rw [Recognizer.claim_keyword hwords hascii', if_neg]
  rintro ⟨hbefore, hkeyword⟩
  cases isWord with
  | false =>
    have hc : isAsciiWordChar c = false := hrun c (by simp [heq])
    have hfirst : Recognizer.firstWord (c :: (back ++ rest)) = [] :=
      Recognizer.firstWord_of_head? hc
    rw [hfirst, isOneOf_nil hwords] at hkeyword
    contradiction
  | true =>
    rcases List.eq_nil_or_concat front with rfl | ⟨init, d, rfl⟩
    · have hfirst : Recognizer.firstWord (run ++ rest) = run :=
        Recognizer.firstWord_append hrun (Recognizer.isAt_eq_false hrest)
      rw [heq, List.nil_append] at hfirst hone
      rw [← List.cons_append, hfirst, hone] at hkeyword
      contradiction
    · have hd : isAsciiWordChar d = true := hrun d (by simp [heq])
      simp [Recognizer.isAt, hd] at hbefore

theorem splitAt_otherRun {p : Pattern} (hp : p.matcher = (Recognizer.keyword words).matcher)
    {isWord : Bool} {settled passed run rest : Text} (hascii : IsAscii (run ++ rest))
    (hrun : ∀ d ∈ run, isAsciiWordChar d = isWord)
    (hrest : ∀ d ∈ rest.head?, isAsciiWordChar d = !isWord) (hone : isOneOf words run = false) :
    p.splitAt settled passed (run ++ rest) = p.splitAt settled (passed ++ run) rest := by
  apply Pattern.splitAt_passAll hp
  intro front c back heq n hn
  rw [claim_in_run hwords hascii hrun hrest hone heq] at hn
  contradiction

theorem dropEmpty_splitAt_keyword {p : Pattern}
    (hp : p.matcher = (Recognizer.keyword words).matcher) (hkind : p.kind = .keyword)
    (hnotAfter : p.notAfter = []) {settled passed run rest : Text} (hascii : IsAscii (run ++ rest))
    (hone : isOneOf words run = true) (hne : run ≠ [])
    (hrest : Recognizer.isAt isAsciiWordChar rest.head? = false)
    (hbefore : Recognizer.isAt isAsciiWordChar (settled ++ passed).getLast? = false) :
    dropEmpty (p.splitAt settled passed (run ++ rest)) =
      dropEmpty [⟨.neutral, passed⟩] ++
        ⟨.keyword, run⟩ :: dropEmpty (p.splitAt (settled ++ passed ++ run) [] rest) := by
  have hclaim := claim_of_isOneOf hwords hascii hone hrest hbefore
  have hafter : Recognizer.isAt p.notAfter.contains (settled ++ passed).getLast? = false := by
    rw [hnotAfter]
    exact Recognizer.isAt_eq_false (by simp)
  rw [Pattern.splitAt_token hp hne hclaim hafter, hkind, dropEmpty_passed _ hne]

/-- The walk through a piece makes fragments of what was passed and of the runs that are still to come. -/
theorem dropEmpty_splitAt {p : Pattern} (hp : p.matcher = (Recognizer.keyword words).matcher)
    (hkind : p.kind = .keyword) (hnotAfter : p.notAfter = []) (rest : Text) :
    ∀ settled passed, IsAscii rest →
      (∀ c ∈ rest.head?, isAsciiWordChar c = true →
        Recognizer.isAt isAsciiWordChar (settled ++ passed).getLast? = false) →
      dropEmpty (p.splitAt settled passed rest) =
        mergeNeutral (dropEmpty [⟨.neutral, passed⟩] ++ (runs rest).map fun run =>
          ⟨if isOneOf words run then .keyword else .neutral, run⟩) := by
  induction rest using runs_induction with
  | nil =>
    intro settled passed _ _
    rw [Pattern.splitAt_end hp]
    simpa [runs] using (mergeNeutral_dropEmpty passed).symm
  | append isWord run rest hne hrun hrest ih =>
    intro settled passed hascii hborder
    have hrunAscii : IsAscii run := fun c hc => hascii c (List.mem_append_left rest hc)
    have hrestAscii : IsAscii rest := fun c hc => hascii c (List.mem_append_right run hc)
    rw [runs_append hne hrun hrest, List.map_cons]
    by_cases hone : isOneOf words run = true
    · have hword := isAsciiWord_of_isOneOf hwords hrunAscii hone
      obtain ⟨c, later, rfl⟩ := List.exists_cons_of_ne_nil hne
      have hc : isAsciiWordChar c = true := hword.chars c List.mem_cons_self
      obtain rfl : true = isWord := hc.symm.trans (hrun c List.mem_cons_self)
      -- No word comes next, so there is nothing to know of what is settled.
      have hlater := ih (settled ++ passed ++ (c :: later)) [] hrestAscii (by
        intro d hd hword
        rw [hrest d hd] at hword
        contradiction)
      rw [dropEmpty_splitAt_keyword hwords hp hkind hnotAfter hascii hone hne
        (Recognizer.isAt_eq_false hrest) (hborder c rfl hc), hlater, hone, if_pos rfl,
        mergeNeutral_append_token (by simp), mergeNeutral_dropEmpty]
      rfl
    · rw [Bool.not_eq_true] at hone
      rw [splitAt_otherRun hwords hp hascii hrun hrest hone, ih _ _ hrestAscii, hone,
        if_neg (by simp), mergeNeutral_passed hne]
      -- If a word comes next, the run that was passed ends with another character.
      intro d hd hword
      rw [hrest d hd, Bool.not_eq_true'] at hword
      obtain ⟨init, e, rfl⟩ := (List.eq_nil_or_concat run).resolve_left hne
      have he : isAsciiWordChar e = false := (hrun e (by simp)).trans hword
      simp [Recognizer.isAt, he]

theorem keywordPattern?_eq (hne : words ≠ []) : Highlighter.keywordPattern? words =
    some { kind := .keyword, matcher := (Recognizer.keyword words).matcher } := by
  have hfilter : words.filter (!·.isEmpty) = words := by
    rw [List.filter_eq_self]
    intro w hw
    simpa using (hwords w hw).filled
  rw [Highlighter.keywordPattern?, hfilter]
  cases words with
  | nil => exact absurd rfl hne
  | cons w words => rfl

end

/-! ## Highlighters -/

/-- A neutral fragment with its keywords marked. Other fragments stay as they are. -/
def Fragment.markWords (words : List Text) (f : Fragment) : List Fragment :=
  if f.kind = .neutral then SearchQuery.markWords words f.text else [f]

theorem markWords_none (t : Text) : markWords [] t = dropEmpty [⟨.neutral, t⟩] := by
  have hfilled : ∀ f ∈ (runs t).map fun run => (⟨.neutral, run⟩ : Fragment),
      f.kind = .neutral ∧ f.text ≠ [] := by
    intro f hf
    obtain ⟨run, hrun, rfl⟩ := List.mem_map.mp hf
    refine ⟨rfl, ?_⟩
    rintro rfl
    exact List.nil_notMem_splitBy _ _ hrun
  have htext : ((runs t).map fun run => (⟨.neutral, run⟩ : Fragment)).flatMap Fragment.text = t := by
    rw [List.flatMap_map]
    exact List.flatten_eq_flatMap.symm.trans (flatten_runs t)
  have hmerge := mergeNeutral_neutral hfilled
  rw [htext] at hmerge
  exact hmerge

theorem Fragment.markWords_none {f : Fragment} (h : f.text ≠ []) : f.markWords [] = [f] := by
  unfold markWords
  split
  · rename_i hkind
    rw [SearchQuery.markWords_none, ← hkind]
    exact dropEmpty_token h []
  · rfl

theorem dropEmpty_refine {p : Pattern} {words : List Text} {fs : List Fragment}
    (h : ∀ f ∈ fs, dropEmpty (p.split f.text) = markWords words f.text) :
    dropEmpty (p.refine fs) = (dropEmpty fs).flatMap (Fragment.markWords words) := by
  induction fs with
  | nil => rfl
  | cons f fs ih =>
    obtain ⟨hf, hfs⟩ := List.forall_mem_cons.mp h
    have hcons : p.refine (f :: fs) =
        (if f.kind = .neutral then p.split f.text else [f]) ++ p.refine fs := List.flatMap_cons
    have hfirst : dropEmpty (if f.kind = .neutral then p.split f.text else [f]) =
        (dropEmpty [f]).flatMap (Fragment.markWords words) := by
      by_cases hkind : f.kind = .neutral
      · rw [if_pos hkind, hf]
        by_cases htext : f.text = []
        · simp [dropEmpty, htext, markWords, runs, mergeNeutral]
        · simp [dropEmpty, htext, Fragment.markWords, hkind]
      · rw [if_neg hkind]
        by_cases htext : f.text = []
        · simp [dropEmpty, htext]
        · simp [dropEmpty, htext, Fragment.markWords, hkind]
    rw [hcons, dropEmpty_append, hfirst, ih hfs, ← List.flatMap_append, ← dropEmpty_append]
    rfl

theorem isAscii_of_mem {t : Text} (ht : IsAscii t) {patterns : List Pattern} {f : Fragment}
    (hf : f ∈ Highlighter.refineAll patterns [⟨.neutral, t⟩]) : IsAscii f.text := by
  intro c hc
  apply ht c
  have htext := Highlighter.refineAll_text patterns [⟨.neutral, t⟩]
  have hmem : c ∈ (Highlighter.refineAll patterns [⟨.neutral, t⟩]).flatMap Fragment.text :=
    List.mem_flatMap.mpr ⟨f, hf, hc⟩
  rw [htext] at hmem
  simpa using hmem

/-- In ASCII text, exactly the words that are among the keywords are marked as such, in what the other
patterns leave neutral. -/
theorem keywords_are_whole_words {t : Text} (ht : IsAscii t) {keywords : List Text}
    (hkeywords : ∀ w ∈ keywords, IsAsciiWord w) :
    (Highlighter.default.withKeywords keywords).classify t =
      (Highlighter.default.classify t).flatMap (Fragment.markWords keywords) := by
  by_cases hne : keywords = []
  · subst hne
    have hsame : ∀ f ∈ Highlighter.default.classify t, f.markWords [] = [f] := by
      intro f hf
      exact Fragment.markWords_none (by simpa using List.of_mem_filter hf)
    rw [Highlighter.withKeywords_of_empty (by simp), List.flatMap_congr hsame, List.flatMap_singleton']
  · rw [Highlighter.classify_eq, Highlighter.classify_eq, Highlighter.withKeywords_patterns,
      keywordPattern?_eq hkeywords hne, Option.toList_some, Highlighter.refineAll, List.foldl_concat]
    apply dropEmpty_refine
    intro f hf
    have hascii := isAscii_of_mem ht hf
    rw [Pattern.split_eq_splitAt]
    exact dropEmpty_splitAt hkeywords rfl rfl rfl f.text [] [] hascii (by simp [Recognizer.isAt])

theorem keywords_are_whole_words_overlapping :
    IsAscii "ab_c AB abc" ∧ (∀ w ∈ ["ab".toList, "abc".toList, "ab".toList], IsAsciiWord w) ∧
    (Highlighter.default.withKeywords ["ab", "abc", "ab"]).classify "ab_c AB abc" =
      (Highlighter.default.classify "ab_c AB abc").flatMap
        (Fragment.markWords ["ab", "abc", "ab"]) := by
  have htext : IsAscii "ab_c AB abc" := by decide
  have hkeywords : ∀ w ∈ ["ab".toList, "abc".toList, "ab".toList], IsAsciiWord w := by decide
  exact ⟨htext, hkeywords, keywords_are_whole_words htext hkeywords⟩

end SearchQuery
