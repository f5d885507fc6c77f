import SearchQuery.Proofs.Keywords
import SearchQuery.Proofs.Reader
import SearchQuery.Proofs.Stepping

/-! # Strings are found by one scan -/

namespace SearchQuery

/-! ## The scan -/

/-- How many characters come before the first quote that no backslash takes along, if there is one. The
first character may be taken along by a backslash in front of the text. -/
def closingQuote (quote : Char) (taken : Bool) : Text → Option Nat
  | [] => none
  | c :: rest =>
    if taken then (closingQuote quote false rest).map (· + 1)
    else if c = quote then some 0
    else (closingQuote quote (c = '\\') rest).map (· + 1)

/-- A quote starts no string directly after an `@` or a backslash. -/
def opensString (before : Option Char) (c : Char) : Bool :=
  (c = '"' || c = '\'') && before ≠ some '@' && before ≠ some '\\'

/-- How many characters stand between the quotes of the string that starts at a character, if one does. -/
def enclosed (before : Option Char) (c : Char) (rest : Text) : Option Nat :=
  if opensString before c then closingQuote c false rest else none

/-- The strings of a text, with the byte offsets where they start. -/
def scanStrings (offset : Nat) (before : Option Char) : Text → List (Nat × Text)
  | [] => []
  | c :: rest =>
    match enclosed before c rest with
    | some n =>
      let token := c :: rest.take (n + 1)
      (offset, token) :: scanStrings (offset + Text.byteSize token) (some c) (rest.drop (n + 1))
    | none => scanStrings (offset + c.utf8Size) (some c) rest
termination_by t => t.length

/-- The fragments of a class, with the byte offsets where they start. -/
def located (kind : TokenClass) (offset : Nat) : List Fragment → List (Nat × Text)
  | [] => []
  | f :: later =>
    if f.kind = kind then (offset, f.text) :: located kind (offset + f.text.byteSize) later
    else located kind (offset + f.text.byteSize) later

/-! ## Steps of the scan -/

theorem scanStrings_pass {before : Option Char} {c : Char} {rest : Text}
    (h : enclosed before c rest = none) (offset : Nat) :
    scanStrings offset before (c :: rest) = scanStrings (offset + c.utf8Size) (some c) rest := by
  rw [scanStrings, h]

/-- A body between two quotes. -/
def stringOf (quote : Char) (body : Text) : Text := quote :: (body ++ [quote])

theorem stringOf_append (quote : Char) (body after : Text) :
    stringOf quote body ++ after = quote :: (body ++ quote :: after) := by simp [stringOf]

theorem length_stringOf (quote : Char) (body : Text) :
    (stringOf quote body).length = body.length + 2 := by simp [stringOf]

theorem getLast?_append_stringOf (front : Text) (quote : Char) (body : Text) :
    (front ++ stringOf quote body).getLast? = some quote := by
  rw [stringOf, ← List.cons_append, ← List.append_assoc, List.getLast?_concat]

theorem scanStrings_token {before : Option Char} {c : Char} {body after : Text}
    (h : enclosed before c (body ++ c :: after) = some body.length) (offset : Nat) :
    scanStrings offset before (stringOf c body ++ after) = (offset, stringOf c body) ::
      scanStrings (offset + (stringOf c body).byteSize) (some c) after := by
  have htake : (body ++ c :: after).take (body.length + 1) = body ++ [c] := by
    rw [List.take_length_add_append, List.take_succ_cons, List.take_zero]
  have hdrop : (body ++ c :: after).drop (body.length + 1) = after := by
    rw [List.drop_length_add_append, List.drop_succ_cons, List.drop_zero]
  rw [stringOf_append, scanStrings, h]
  simp only [htake, hdrop]
  rfl

/-! ## Where a string is claimed -/

theorem closingQuote_eq {quote : Char} (hquote : quote ≠ '\\') (t : Text) :
    closingQuote quote false t = (t.delimited quote).map fun found => found.1.length := by
  fun_induction Text.delimited quote t with
  | case1 => rfl
  | case2 c rest ih =>
    simp [closingQuote, ih, hquote.symm, Function.comp_def]
  | case3 rest hesc => simp [closingQuote]
  | case4 c rest hesc hc ih =>
    by_cases hslash : c = '\\'
    · obtain rfl : rest = [] := by
        cases rest with
        | nil => rfl
        | cons d rest => exact absurd rfl (hesc _ _ hslash)
      simp [closingQuote, Text.delimited, hc]
    · simp [closingQuote, ih, hc, hslash, Function.comp_def]

theorem exists_of_closingQuote {quote : Char} (hquote : quote ≠ '\\') {t : Text} {n : Nat}
    (h : closingQuote quote false t = some n) :
    ∃ body after, t = body ++ quote :: after ∧ body.length = n := by
  rw [closingQuote_eq hquote] at h
  obtain ⟨⟨body, after⟩, hfound, hlength⟩ := Option.map_eq_some_iff.mp h
  exact ⟨body, after, Text.delimited_eq hfound, hlength⟩

namespace Recognizer

theorem claim_quotedBy {quote : Char} (hquote : quote ≠ '\\') (before : Option Char) (c : Char)
    (rest : Text) : (quotedBy quote).claim before (c :: rest) =
      if c = quote then (closingQuote quote false rest).map (· + 2) else none := by
  change (append (exactly quote) (upTo quote fun _ => true)).claim before (c :: rest) = _
  rw [closingQuote_eq hquote]
  by_cases hc : c = quote
  · cases hfound : rest.delimited quote with
    | none => simp [append, exactly, char, upTo, hc, hfound]
    | some found =>
      have hsum : 1 + (found.1.length + 1) = found.1.length + 2 := by omega
      simp [append, exactly, char, upTo, hc, hfound, hsum]
  · simp [append, exactly, char, hc]

theorem claim_string (before : Option Char) (c : Char) (rest : Text) :
    string.claim before (c :: rest) =
      if c = '"' ∨ c = '\'' then (closingQuote c false rest).map (· + 2) else none := by
  change ((quotedBy '"').claim before (c :: rest)).or
    (((quotedBy '\'').claim before (c :: rest)).or none) = _
  rw [claim_quotedBy (by decide), claim_quotedBy (by decide)]
  by_cases hdouble : c = '"'
  · simp [hdouble]
  · by_cases hsingle : c = '\''
    · simp [hsingle]
    · simp [hdouble, hsingle]

end Recognizer

/-! ## Places of fragments -/

theorem located_token (kind : TokenClass) (offset : Nat) (t : Text) (later : List Fragment) :
    located kind offset (⟨kind, t⟩ :: later) =
      (offset, t) :: located kind (offset + t.byteSize) later := if_pos rfl

theorem located_other {kind : TokenClass} {f : Fragment} (h : f.kind ≠ kind) (offset : Nat)
    (later : List Fragment) :
    located kind offset (f :: later) = located kind (offset + f.text.byteSize) later := if_neg h

theorem located_append (kind : TokenClass) (offset : Nat) (fs gs : List Fragment) :
    located kind offset (fs ++ gs) =
      located kind offset fs ++ located kind (offset + Text.byteSize (fs.flatMap Fragment.text)) gs := by
  induction fs generalizing offset with
  | nil => rfl
  | cons f fs ih =>
    rw [List.cons_append, located, located, ih, List.flatMap_cons, Text.byteSize_append, Nat.add_assoc]
    split <;> rfl

theorem located_eq_nil {kind : TokenClass} {fs : List Fragment} (h : ∀ f ∈ fs, f.kind ≠ kind)
    (offset : Nat) : located kind offset fs = [] := by
  induction fs generalizing offset with
  | nil => rfl
  | cons f fs ih =>
    obtain ⟨hf, hfs⟩ := List.forall_mem_cons.mp h
    rw [located_other hf, ih hfs]

theorem located_dropEmpty {kind : TokenClass} {fs : List Fragment}
    (h : ∀ f ∈ fs, f.kind = kind → f.text ≠ []) (offset : Nat) :
    located kind offset (dropEmpty fs) = located kind offset fs := by
  induction fs generalizing offset with
  | nil => rfl
  | cons f fs ih =>
    obtain ⟨hf, hfs⟩ := List.forall_mem_cons.mp h
    by_cases htext : f.text = []
    · have hkind : f.kind ≠ kind := fun hkind => hf hkind htext
      have hdrop : dropEmpty (f :: fs) = dropEmpty fs := by simp [dropEmpty, htext]
      rw [hdrop, ih hfs, located_other hkind, htext, Text.byteSize_nil, Nat.add_zero]
    · rw [dropEmpty_token htext, located, located, ih hfs]

theorem Laced.text_ne_nil {fs : List Fragment} (h : Laced fs) :
    ∀ f ∈ fs, f.kind ≠ .neutral → f.text ≠ [] := by
  induction h with
  | neutral t => simp
  | token t hkind htext _ ih => simpa [htext] using ih

theorem Pattern.located_refine {p : Pattern} {kind : TokenClass} (hneutral : kind ≠ .neutral)
    (hp : p.kind ≠ kind) (fs : List Fragment) (offset : Nat) :
    located kind offset (p.refine fs) = located kind offset fs := by
  induction fs generalizing offset with
  | nil => rfl
  | cons f fs ih =>
    by_cases hf : f.kind = .neutral
    · obtain ⟨_, t⟩ := f
      obtain rfl : _ = TokenClass.neutral := hf
      have hsplit : ∀ g ∈ p.split t, g.kind ≠ kind := by
        intro g hg
        rcases kind_of_mem_split g hg with hkind | hkind
        · rw [hkind]
          exact hneutral.symm
        · rw [hkind]
          exact hp
      rw [refine_cons, located_append, located_eq_nil hsplit, split_text, ih,
        located_other hneutral.symm, List.nil_append]
    · rw [refine_token p hf, located, located, ih]

theorem Highlighter.located_refineAll {patterns : List Pattern} {kind : TokenClass}
    (hneutral : kind ≠ .neutral) (hpatterns : ∀ p ∈ patterns, p.kind ≠ kind) (fs : List Fragment)
    (offset : Nat) : located kind offset (refineAll patterns fs) = located kind offset fs := by
  unfold refineAll
  induction patterns generalizing fs with
  | nil => rfl
  | cons p patterns ih =>
    obtain ⟨hp, hpatterns⟩ := List.forall_mem_cons.mp hpatterns
    rw [List.foldl_cons, ih hpatterns, p.located_refine hneutral hp]

/-! ## The first pattern -/

/-- The pattern of strings. -/
def Pattern.strings : Pattern where
  kind := .string
  matcher := Recognizer.string.matcher
  notAfter := ['@', '\\']

theorem opensString_iff {before : Option Char} {c : Char} :
    opensString before c = true ↔ (c = '"' ∨ c = '\'') ∧
      Recognizer.isAt Pattern.strings.notAfter.contains before = false := by
  cases before with
  | none => simp [opensString, Recognizer.isAt]
  | some b => simp [opensString, Recognizer.isAt, Pattern.strings, and_assoc]

theorem claim_of_enclosed {before : Option Char} {c : Char} {rest : Text} {n : Nat}
    (h : enclosed before c rest = some n) :
    ∃ body after, rest = body ++ c :: after ∧ body.length = n ∧
      Recognizer.string.claim before (stringOf c body ++ after) = some (stringOf c body).length ∧
      Recognizer.isAt Pattern.strings.notAfter.contains before = false := by
  obtain ⟨hopens, hclosing⟩ := Option.ite_none_right_eq_some.mp h
  obtain ⟨hquote, hafter⟩ := opensString_iff.mp hopens
  have hslash : c ≠ '\\' := by rcases hquote with rfl | rfl <;> decide
  obtain ⟨body, after, rfl, rfl⟩ := exists_of_closingQuote hslash hclosing
  refine ⟨body, after, rfl, rfl, ?_, hafter⟩
  rw [stringOf_append, Recognizer.claim_string, if_pos hquote, hclosing, length_stringOf]
  rfl

theorem noMatch_of_not_enclosed {before : Option Char} {c : Char} {rest : Text}
    (h : enclosed before c rest = none) :
    Pattern.strings.NoMatch Recognizer.string before (c :: rest) := by
  intro n hn
  right
  rw [Recognizer.claim_string] at hn
  obtain ⟨hquote, hclaim⟩ := Option.ite_none_right_eq_some.mp hn
  obtain ⟨k, hclosing, -⟩ := Option.map_eq_some_iff.mp hclaim
  have hopens : ¬ opensString before c = true := by
    intro hopens
    rw [enclosed, if_pos hopens, hclosing] at h
    contradiction
  rw [opensString_iff] at hopens
  simpa [hquote] using hopens

/-- Splitting a piece from a place on is going on with the scan there. -/
theorem located_splitAt (rest : Text) : ∀ (settled passed : Text) (offset : Nat),
    located .string offset (Pattern.strings.splitAt settled passed rest) =
      scanStrings (offset + passed.byteSize) (settled ++ passed).getLast? rest := by
  -- By the length of what is left, since a step can take a whole string.
  induction hn : rest.length using Nat.strong_induction_on generalizing rest with
  | _ n ih =>
    intro settled passed offset
    have hneutral : TokenClass.neutral ≠ TokenClass.string := by decide
    cases rest with
    | nil =>
      rw [Pattern.splitAt_end rfl, located_other hneutral, scanStrings]
      rfl
    | cons c rest =>
      rw [List.length_cons] at hn
      cases hfound : enclosed (settled ++ passed).getLast? c rest with
      | some k =>
        obtain ⟨body, after, rfl, rfl, hclaim, hafter⟩ := claim_of_enclosed hfound
        rw [List.length_append, List.length_cons] at hn
        have hlater := ih after.length (by omega) after rfl (settled ++ passed ++ stringOf c body) []
        rw [List.append_nil, getLast?_append_stringOf] at hlater
        have hne : stringOf c body ≠ [] := List.cons_ne_nil _ _
        rw [← stringOf_append, Pattern.splitAt_token rfl hne hclaim hafter, located_other hneutral,
          scanStrings_token hfound]
        refine (located_token ..).trans ?_
        rw [hlater]
        rfl
      | none =>
        have hlater := ih rest.length (by omega) rest rfl settled (passed ++ [c]) offset
        rw [← List.append_assoc, List.getLast?_concat, Text.byteSize_append, ← Nat.add_assoc] at hlater
        rw [Pattern.splitAt_pass rfl (noMatch_of_not_enclosed hfound), hlater,
          scanStrings_pass hfound]
        rfl

/-! ## Highlighters -/

/-- Strings come first, and no other pattern is for strings. -/
theorem Highlighter.exists_after_strings (calls : List (List Text)) :
    ∃ later, (configured calls).patterns = Pattern.strings :: later ∧
      ∀ p ∈ later, p.kind ≠ .string := by
  rcases List.eq_nil_or_concat calls with rfl | ⟨earlier, last, rfl⟩
  · exact ⟨default.patterns.tail, rfl, by simp [default]⟩
  · refine ⟨default.patterns.tail ++ (keywordPattern? last).toList, ?_, ?_⟩
    · rw [List.concat_eq_append, configured_concat, withKeywords_patterns]
      rfl
    · rw [List.forall_mem_append]
      refine ⟨by simp [default], ?_⟩
      intro p hp
      rw [kind_of_keywordPattern (Option.mem_toList.mp hp)]
      decide

theorem Highlighter.located_take (calls : List (List Text)) (t : Text) (n : Nat) :
    located .string 0 (refineAll ((configured calls).patterns.take (n + 1)) [⟨.neutral, t⟩]) =
      scanStrings 0 none t := by
  obtain ⟨later, hpatterns, hlater⟩ := exists_after_strings calls
  have hstep : refineAll ((configured calls).patterns.take (n + 1)) [⟨.neutral, t⟩] =
      refineAll (later.take n) (Pattern.strings.split t) := by
    rw [hpatterns, List.take_succ_cons, refineAll, List.foldl_cons, ← refineAll]
    simp [Pattern.refine]
  have hfirst := located_splitAt t [] [] 0
  rw [hstep, located_refineAll (by decide) (fun p hp => hlater p (List.mem_of_mem_take hp)),
    Pattern.split_eq_splitAt, hfirst]
  rfl

/-- The strings among the fragments of a text, with their places, are those of one scan from the left,
whatever keywords were set. They are found first, and none of the later patterns changes them. -/
theorem strings_by_one_scan (calls : List (List Text)) (t : Text) :
    located .string 0 ((Highlighter.configured calls).classify t) = scanStrings 0 none t ∧
    ∀ n, located .string 0 (Highlighter.refineAll ((Highlighter.configured calls).patterns.take (n + 1))
      [⟨.neutral, t⟩]) = scanStrings 0 none t := by
  constructor
  · have hlaced : Laced (Highlighter.refineAll (Highlighter.configured calls).patterns
        [⟨.neutral, t⟩]) := Highlighter.laced_refineAll (Highlighter.configured_kinds calls) (.neutral t)
    have hfilled : ∀ f ∈ Highlighter.refineAll (Highlighter.configured calls).patterns
        [⟨.neutral, t⟩], f.kind = .string → f.text ≠ [] := by
      intro f hf hkind
      apply hlaced.text_ne_nil f hf
      rw [hkind]
      decide
    have htake := Highlighter.located_take calls t (Highlighter.configured calls).patterns.length
    rw [List.take_of_length_le (Nat.le_succ _)] at htake
    rw [Highlighter.classify_eq, located_dropEmpty hfilled, htake]
  · exact Highlighter.located_take calls t

example : scanStrings 0 none "a'b\\'\"c'@\"d\"" = [(1, "'b\\'\"c'".toList)] := by cbv

end SearchQuery
