import SearchQuery.Proofs.Fragments

/-! # Markup that holds nothing but the text -/

namespace SearchQuery

namespace Html

/-! ## Pages -/

/-- The characters that can stand in tags only. -/
def brackets : List Char := ['<', '>', '"', '\'']

def entities : List Text := ["&amp;", "&lt;", "&gt;", "&quot;", "&#39;"]

def openingTag (kind : TokenClass) : Text := "<span class=\"token " ++ kind.name ++ "\">"

def closingTag : Text := "</span>"

def IsTag (tag : Text) : Prop :=
  tag = closingTag ∨ ∃ kind, kind ≠ TokenClass.neutral ∧ tag = openingTag kind

/-- Entities, and characters that are neither brackets nor start an entity. -/
inductive Escaped : Text → Prop
  | nil : Escaped []
  | plain {c : Char} {s : Text} (hbracket : c ∉ brackets) (hampersand : c ≠ '&') (h : Escaped s) :
      Escaped (c :: s)
  | entity {e s : Text} (he : e ∈ entities) (h : Escaped s) : Escaped (e ++ s)

/-- Escaped text, and elements with escaped text in them. -/
inductive Flat : Text → Prop
  | nil : Flat []
  | text {s rest : Text} (hs : Escaped s) (h : Flat rest) : Flat (s ++ rest)
  | element {kind : TokenClass} {s rest : Text} (hkind : kind ≠ .neutral) (hs : Escaped s)
      (h : Flat rest) : Flat (openingTag kind ++ (s ++ (closingTag ++ rest)))

/-- A tag stands around this place. -/
def InTag (before : Text) (c : Char) (after : Text) : Prop :=
  ∃ outside left right outside', before = outside ++ left ∧ after = right ++ outside' ∧
    IsTag (left ++ c :: right)

/-- The character at this place is what it has to be: a bracket belongs to a tag, and an ampersand
starts an entity. -/
structure Accounted (before : Text) (c : Char) (after : Text) : Prop where
  bracket : c ∈ brackets → InTag before c after
  ampersand : c = '&' → ∃ e ∈ entities, e <+: c :: after

def AllAccounted (page : Text) : Prop :=
  ∀ before c after, page = before ++ c :: after → Accounted before c after

/-- The text without its tags, from a place inside or outside of a tag on. -/
def outsideTags : Bool → Text → Text
  | _, [] => []
  | false, c :: rest => if c = '<' then outsideTags true rest else c :: outsideTags false rest
  | true, c :: rest => outsideTags (c ≠ '>') rest

def dropTags (t : Text) : Text := outsideTags false t

def decode : Text → Text
  | [] => []
  | '&' :: 'a' :: 'm' :: 'p' :: ';' :: rest => '&' :: decode rest
  | '&' :: 'l' :: 't' :: ';' :: rest => '<' :: decode rest
  | '&' :: 'g' :: 't' :: ';' :: rest => '>' :: decode rest
  | '&' :: 'q' :: 'u' :: 'o' :: 't' :: ';' :: rest => '"' :: decode rest
  | '&' :: '#' :: '3' :: '9' :: ';' :: rest => '\'' :: decode rest
  | c :: rest => c :: decode rest

example : decode "&amp;lt;" = ("&lt;" : Text) := rfl

/-- The page shows the text and nothing else. -/
structure Shows (t page : Text) : Prop where
  flat : Flat page
  accounted : AllAccounted page
  content : decode (dropTags page) = t

/-! ## Every character is accounted for -/

theorem Accounted.extend {before after : Text} {c : Char} (h : Accounted before c after)
    (outside outside' : Text) : Accounted (outside ++ before) c (after ++ outside') := by
  constructor
  · intro hc
    obtain ⟨a, left, right, b, rfl, rfl, htag⟩ := h.bracket hc
    exact ⟨outside ++ a, left, right, b ++ outside', by simp, by simp, htag⟩
  · intro hc
    obtain ⟨e, he, hprefix⟩ := h.ampersand hc
    exact ⟨e, he, hprefix.trans (List.prefix_append (c :: after) outside')⟩

theorem allAccounted_nil : AllAccounted [] := by
  intro before c after h
  simp at h

theorem AllAccounted.append {s t : Text} (hs : AllAccounted s) (ht : AllAccounted t) :
    AllAccounted (s ++ t) := by
  intro before c after h
  rcases List.append_eq_append_iff.mp h with ⟨r, rfl, hr⟩ | ⟨r, rfl, hr⟩
  · simpa using (ht r c after hr).extend s []
  · cases r with
    | nil => simpa using (ht [] c after hr.symm).extend before []
    | cons x r =>
      obtain ⟨rfl, rfl⟩ := List.cons.inj hr
      simpa using (hs before c r rfl).extend [] t

theorem allAccounted_plain {c : Char} (hbracket : c ∉ brackets) (hampersand : c ≠ '&') :
    AllAccounted [c] := by
  intro before d after h
  obtain rfl : d = c := by
    have hd : d ∈ [c] := h ▸ by simp
    simpa using hd
  exact ⟨fun hd => absurd hd hbracket, fun hd => absurd hd hampersand⟩

theorem bracket_not_mem_entity {e : Text} (he : e ∈ entities) : ∀ c ∈ brackets, c ∉ e := by
  -- As a check over the four brackets: a quantifier over characters is decided on all of Unicode.
  have hall : ∀ e ∈ entities, brackets.all (· ∉ e) := by decide
  simpa using hall e he

theorem allAccounted_entity {e : Text} (he : e ∈ entities) : AllAccounted e := by
  -- Only the first character of an entity is an ampersand.
  have hall : ∀ e ∈ entities, '&' ∉ e.tail := by decide
  have htail := hall e he
  intro before c after heq
  have hmem : c ∈ e := by simp [heq]
  refine ⟨fun hc => absurd hmem (bracket_not_mem_entity he c hc), ?_⟩
  rintro rfl
  cases before with
  | nil => exact ⟨e, he, by simp [heq]⟩
  | cons x before => simp [heq] at htail

theorem ampersand_not_mem_tag {tag : Text} (htag : IsTag tag) : '&' ∉ tag := by
  rcases htag with rfl | ⟨kind, -, rfl⟩
  · decide
  · cases kind <;> decide

theorem allAccounted_tag {tag : Text} (htag : IsTag tag) : AllAccounted tag := by
  rintro before c after rfl
  refine ⟨fun _ => ⟨[], before, after, [], rfl, by simp, htag⟩, ?_⟩
  rintro rfl
  exact absurd (by simp) (ampersand_not_mem_tag htag)

theorem Escaped.allAccounted {s : Text} (h : Escaped s) : AllAccounted s := by
  induction h with
  | nil => exact allAccounted_nil
  | plain hbracket hampersand _ ih => exact (allAccounted_plain hbracket hampersand).append ih
  | entity he _ ih => exact (allAccounted_entity he).append ih

theorem Flat.allAccounted {page : Text} (h : Flat page) : AllAccounted page := by
  induction h with
  | nil => exact allAccounted_nil
  | text hs _ ih => exact hs.allAccounted.append ih
  | element hkind hs _ ih =>
    have hopening := allAccounted_tag (.inr ⟨_, hkind, rfl⟩)
    have hclosing := allAccounted_tag (.inl rfl)
    exact hopening.append (hs.allAccounted.append (hclosing.append ih))

/-! ## Escaped text -/

theorem decode_cons {c : Char} (h : c ≠ '&') (rest : Text) :
    decode (c :: rest) = c :: decode rest := by
  rw [decode.eq_def]
  split <;> simp_all

theorem escapeChar_cases (c : Char) :
    (escapeChar c ∈ entities ∧ ∀ rest, decode (escapeChar c ++ rest) = c :: decode rest) ∨
    (escapeChar c = [c] ∧ c ∉ brackets ∧ c ≠ '&') := by
  fun_cases escapeChar c with
  | case1 | case2 | case3 | case4 | case5 => exact .inl ⟨by decide, fun _ => rfl⟩
  | case6 c => exact .inr ⟨rfl, by simp_all [brackets], by assumption⟩

theorem escape_append (s t : Text) : escape (s ++ t) = escape s ++ escape t := by
  simp only [escape_eq_flatMap, List.flatMap_append]

theorem escape_cons (c : Char) (t : Text) : escape (c :: t) = escapeChar c ++ escape t := by
  simp only [escape_eq_flatMap, List.flatMap_cons]

theorem escaped_escape (t : Text) : Escaped (escape t) := by
  induction t with
  | nil => exact .nil
  | cons c t ih =>
    rw [escape_cons]
    rcases escapeChar_cases c with ⟨he, -⟩ | ⟨hplain, hbracket, hampersand⟩
    · exact .entity he ih
    · rw [hplain]
      exact .plain hbracket hampersand ih

theorem decode_escape (t rest : Text) : decode (escape t ++ rest) = t ++ decode rest := by
  induction t with
  | nil => rfl
  | cons c t ih =>
    rw [escape_cons, List.append_assoc]
    rcases escapeChar_cases c with ⟨-, hdecode⟩ | ⟨hplain, -, hampersand⟩
    · rw [hdecode, ih]
      rfl
    · rw [hplain, List.singleton_append, decode_cons hampersand, ih]
      rfl

theorem Escaped.bracket_not_mem {s : Text} (h : Escaped s) : ∀ c ∈ brackets, c ∉ s := by
  intro c hc
  induction h with
  | nil => simp
  | plain hbracket _ _ ih =>
    rw [List.mem_cons, not_or]
    exact ⟨fun heq => hbracket (heq ▸ hc), ih⟩
  | entity he _ ih =>
    rw [List.mem_append, not_or]
    exact ⟨bracket_not_mem_entity he c hc, ih⟩

/-! ## Without the markup -/

theorem dropTags_append {s : Text} (h : '<' ∉ s) (rest : Text) :
    dropTags (s ++ rest) = s ++ dropTags rest := by
  induction s with
  | nil => rfl
  | cons c s ih =>
    rw [List.mem_cons, not_or] at h
    have hc : ¬ c = '<' := fun heq => h.1 heq.symm
    rw [List.cons_append, dropTags, outsideTags, if_neg hc]
    exact congrArg (c :: ·) (ih h.2)

theorem dropTags_tag {tag : Text} (htag : IsTag tag) (rest : Text) :
    dropTags (tag ++ rest) = dropTags rest := by
  rcases htag with rfl | ⟨kind, -, rfl⟩
  · rfl
  · cases kind <;> rfl

theorem dropTags_escape (t rest : Text) : dropTags (escape t ++ rest) = escape t ++ dropTags rest :=
  dropTags_append ((escaped_escape t).bracket_not_mem '<' (by decide)) rest

theorem markup_neutral (t : Text) : markup .neutral t = escape t := rfl

theorem markup_token {kind : TokenClass} (h : kind ≠ .neutral) (t : Text) :
    markup kind t = openingTag kind ++ (escape t ++ closingTag) := by
  cases kind with
  | neutral => exact absurd rfl h
  | _ => exact (List.append_assoc ..)

/-- A fragment adds to the page what its text is. -/
theorem decode_dropTags_markup (f : Fragment) (page : Text) :
    decode (dropTags (markup f.kind f.text ++ page)) = f.text ++ decode (dropTags page) := by
  by_cases h : f.kind = .neutral
  · rw [h, markup_neutral, dropTags_escape, decode_escape]
  · rw [markup_token h, List.append_assoc, List.append_assoc, dropTags_tag (.inr ⟨_, h, rfl⟩),
      dropTags_escape, dropTags_tag (.inl rfl), decode_escape]

theorem Flat.markup {page : Text} (h : Flat page) (f : Fragment) :
    Flat (markup f.kind f.text ++ page) := by
  by_cases hkind : f.kind = .neutral
  · rw [hkind, markup_neutral]
    exact .text (escaped_escape f.text) h
  · rw [markup_token hkind, List.append_assoc, List.append_assoc]
    exact .element hkind (escaped_escape f.text) h

theorem shows_fragments (fs : List Fragment) :
    Shows (fs.flatMap Fragment.text) (fs.flatMap fun f => markup f.kind f.text) := by
  induction fs with
  | nil => exact ⟨.nil, allAccounted_nil, rfl⟩
  | cons f fs ih =>
    have hflat := ih.flat.markup f
    refine ⟨hflat, hflat.allAccounted, ?_⟩
    rw [List.flatMap_cons, List.flatMap_cons, decode_dropTags_markup, ih.content]

end Html

/-- A highlighted text is shown as it is, whatever it holds and whatever keywords were set. -/
theorem highlight_html_shows (calls : List (List Text)) (t : Text) :
    Html.Shows t (highlight (Highlighter.configured calls) Html.markup t) := by
  have hcovers := covers_classify (Highlighter.configured_kinds calls) t
  have hshows := Html.shows_fragments ((Highlighter.configured calls).classify t)
  rw [hcovers.text_eq] at hshows
  exact hshows

end SearchQuery
