import SearchQuery.Proofs.Elements
import SearchQuery.Proofs.Pointing
import SearchQuery.Report

/-! # Markup of errors -/

namespace SearchQuery

namespace Html

/-! ## Reports as pages -/

/-- What a report consists of. The attributes of its two elements stand apart from their texts. -/
structure ReportPage where
  before : Text
  underline : Text
  culprit : Text
  after : Text
  paragraph : Text
  message : Text

namespace ReportPage

/-- The query, with an underlined stretch. -/
def body (p : ReportPage) : Text :=
  p.before ++ "<u " ++ p.underline ++ ">" ++ p.culprit ++ "</u>" ++ p.after

/-- The query and a paragraph after it. -/
def page (p : ReportPage) : Text := p.body ++ "<p " ++ p.paragraph ++ ">" ++ p.message ++ "</p>"

def texts (p : ReportPage) : List Text := [p.before, p.culprit, p.after, p.message]

def attributes (p : ReportPage) : List Text := [p.underline, p.paragraph]

end ReportPage

def assignment (key value : Text) : Text := key ++ "=\"" ++ value ++ "\""

/-- A key with an escaped value. -/
def IsAttribute (a : Text) : Prop :=
  (∃ value, Escaped value ∧ a = assignment "class" value) ∨
    ∃ value, Escaped value ∧ a = assignment "style" value

/-- All texts of the page are escaped, and its four tags are the only ones: they hold each `<` and each
`>` that there is. -/
structure ReportPage.Safe (p : ReportPage) : Prop where
  texts : ∀ t ∈ p.texts, Escaped t
  attributes : ∀ a ∈ p.attributes, IsAttribute a
  opened : p.page.count '<' = 4
  closed : p.page.count '>' = 4

/-! ## Tags -/

theorem IsAttribute.bracket_not_mem {a : Text} (h : IsAttribute a) : '<' ∉ a ∧ '>' ∉ a := by
  obtain ⟨value, hvalue, rfl⟩ | ⟨value, hvalue, rfl⟩ := h <;>
    simp [assignment, hvalue.bracket_not_mem '<' (by decide), hvalue.bracket_not_mem '>' (by decide)]

theorem outsideTags_inside {inner : Text} (h : '>' ∉ inner) (rest : Text) :
    outsideTags true (inner ++ '>' :: rest) = outsideTags false rest := by
  induction inner with
  | nil => rfl
  | cons c inner ih =>
    rw [List.mem_cons, not_or] at h
    have hc : c ≠ '>' := fun heq => h.1 heq.symm
    rw [List.cons_append, outsideTags, decide_eq_true hc, ih h.2]

theorem dropTags_bracketed {inner : Text} (h : '>' ∉ inner) (rest : Text) :
    dropTags ('<' :: (inner ++ '>' :: rest)) = dropTags rest := outsideTags_inside h rest

namespace ReportPage

theorem dropTags_body {p : ReportPage} (htexts : ∀ t ∈ p.texts, Escaped t)
    (hattributes : ∀ a ∈ p.attributes, IsAttribute a) :
    dropTags p.body = p.before ++ p.culprit ++ p.after := by
  have hbody : p.body = p.before ++ '<' :: (("u " ++ p.underline) ++ '>' :: (p.culprit ++
      '<' :: ("/u" ++ '>' :: p.after))) := by
    simp only [body, List.append_assoc]
    rfl
  have hplain : ∀ t ∈ p.texts, ∀ rest, dropTags (t ++ rest) = t ++ dropTags rest :=
    fun t ht => dropTags_append ((htexts t ht).bracket_not_mem '<' (by decide))
  have hunderline : '>' ∉ ("u " ++ p.underline : Text) := by
    simp [(hattributes p.underline (by simp [attributes])).bracket_not_mem]
  have hafter := hplain p.after (by simp [texts]) []
  rw [List.append_nil] at hafter
  rw [hbody, hplain p.before (by simp [texts]), dropTags_bracketed hunderline,
    hplain p.culprit (by simp [texts]), dropTags_bracketed (by decide), hafter]
  simp [dropTags, outsideTags]

theorem count_page {p : ReportPage} (htexts : ∀ t ∈ p.texts, Escaped t)
    (hattributes : ∀ a ∈ p.attributes, IsAttribute a) :
    p.page.count '<' = 4 ∧ p.page.count '>' = 4 := by
  have hnone : ∀ s ∈ p.texts ++ p.attributes, s.count '<' = 0 ∧ s.count '>' = 0 := by
    intro s hs
    rw [List.count_eq_zero, List.count_eq_zero]
    rcases List.mem_append.mp hs with hs | hs
    · exact ⟨(htexts s hs).bracket_not_mem '<' (by decide),
        (htexts s hs).bracket_not_mem '>' (by decide)⟩
    · exact (hattributes s hs).bracket_not_mem
  simp only [texts, attributes, List.cons_append, List.nil_append, List.forall_mem_cons] at hnone
  obtain ⟨hbefore, hculprit, hafter, hmessage, hunderline, hparagraph, -⟩ := hnone
  simp [page, body, hbefore, hculprit, hafter, hmessage, hunderline, hparagraph]

theorem safe {p : ReportPage} (htexts : ∀ t ∈ p.texts, Escaped t)
    (hattributes : ∀ a ∈ p.attributes, IsAttribute a) : p.Safe :=
  ⟨htexts, hattributes, (count_page htexts hattributes).1, (count_page htexts hattributes).2⟩

end ReportPage

end Html

/-! ## Reports -/

namespace Report

theorem isAttribute_attributes (name : Option Text) :
    Html.IsAttribute (attributes name).1 ∧ Html.IsAttribute (attributes name).2 := by
  cases name with
  | none =>
    exact ⟨.inr ⟨_, Html.escaped_escape "text-decoration-color: red;color: red;", rfl⟩,
      .inr ⟨_, Html.escaped_escape "color:red", rfl⟩⟩
  | some name =>
    exact ⟨.inl ⟨_, Html.escaped_escape name, rfl⟩, .inl ⟨_, Html.escaped_escape name, rfl⟩⟩

/-- The report of an error as its parts. -/
def pageOf (error : QueryError) (source : Text) (name : Option Text) : Html.ReportPage where
  before := Html.escape (source.splitAround error.offset).before
  underline := (attributes name).1
  culprit := Html.escape (source.splitAround error.offset).culprit
  after := Html.escape (source.splitAround error.offset).after
  paragraph := (attributes name).2
  message := Html.escape error.message

theorem markup_eq (error : QueryError) (source : Text) (name : Option Text) :
    markup error source name = (pageOf error source name).page := rfl

theorem safe_pageOf (error : QueryError) (source : Text) (name : Option Text) :
    (pageOf error source name).Safe := by
  apply Html.ReportPage.safe
  · intro t ht
    simp only [Html.ReportPage.texts, pageOf, List.mem_cons, List.not_mem_nil, or_false] at ht
    rcases ht with rfl | rfl | rfl | rfl <;> exact Html.escaped_escape _
  · intro a ha
    simp only [Html.ReportPage.attributes, pageOf, List.mem_cons, List.not_mem_nil, or_false] at ha
    rcases ha with rfl | rfl
    · exact (isAttribute_attributes name).1
    · exact (isAttribute_attributes name).2

theorem decode_escape (t : Text) : Html.decode (Html.escape t) = t := by
  have h := Html.decode_escape t []
  simpa [Html.decode] using h

theorem decode_body (error : QueryError) (source : Text) (name : Option Text) :
    Html.decode (Html.dropTags (pageOf error source name).body) =
      (source.splitAround error.offset).before ++ (source.splitAround error.offset).culprit ++
        (source.splitAround error.offset).after := by
  have hsafe := safe_pageOf error source name
  rw [Html.ReportPage.dropTags_body hsafe.texts hsafe.attributes]
  simp only [pageOf, ← Html.escape_append]
  exact decode_escape _

end Report

/-- The report of an error shows the query, with one character underlined, and the message in a
paragraph of its own. Nothing in them, nor in the class, is taken for markup. -/
theorem error_markup_shows (error : QueryError) (source : Text) (name : Option Text) :
    ∃ p : Html.ReportPage, Report.markup error source name = p.page ∧ p.Safe ∧
      (error.offset < source.byteSize → ∃ c, Html.decode p.culprit = [c] ∧
        source.LiesAt error.offset (Html.decode p.before) (c :: Html.decode p.after) ∧
        Html.decode (Html.dropTags p.body) = source) ∧
      (source.byteSize ≤ error.offset → Html.decode p.culprit = " " ∧
        Html.decode (Html.dropTags p.body) = source ++ " ") ∧
      Html.decode p.message = error.message ∧
      ∀ given, name = some given → ∃ value, p.underline = Html.assignment "class" value ∧
        p.paragraph = Html.assignment "class" value ∧ Html.decode value = given := by
  refine ⟨Report.pageOf error source name, Report.markup_eq error source name,
    Report.safe_pageOf error source name, ?_, ?_, Report.decode_escape error.message, ?_⟩
  · intro hlt
    obtain ⟨front, c, back, hlies⟩ := Text.exists_liesAt_cons hlt
    rw [Report.decode_body]
    simp only [Report.pageOf, Report.decode_escape, hlies.splitAround_cons]
    exact ⟨c, rfl, hlies, by simp [hlies.text_eq]⟩
  · intro hle
    rw [Report.decode_body]
    simp only [Report.pageOf, Report.decode_escape, Text.splitAround_end hle]
    exact ⟨trivial, List.append_nil _⟩
  · rintro given rfl
    exact ⟨Html.escape given, rfl, rfl, Report.decode_escape given⟩

end SearchQuery
