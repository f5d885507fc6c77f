import SearchQuery.Proofs.Layout
import SearchQuery.Proofs.Unambiguous

/-! # Formatting changes blanks only -/

namespace SearchQuery

/-! ## Layouts parse -/

theorem shows_format (width : Nat) (style : Style) (q : Query) :
    (q.layout style).Shows (q.format width style) :=
  Doc.shows_print Text.width width .broken 0 0 (q.layout style)

theorem format_of_parse {t : Text} {q : Query} (h : parse t = .ok q) (width : Nat) (style : Style) :
    format width style t = .ok (q.format width style) := by
  rw [format, h]
  rfl

theorem spells_format {items : List Query} {q : Query} {s : Text} (h : Spells items s)
    (hq : Query.ofItems? items = some q) (width : Nat) (style : Style) :
    Spells items (q.format width style) :=
  h.layout ((h.shows_ofItems? hq).mp (shows_format width style q))

theorem parse_format {t : Text} {q : Query} (h : parse t = .ok q) (width : Nat) (style : Style) :
    parse (q.format width style) = .ok q := by
  obtain ⟨items, _, s, _, hq, hspells, -⟩ := parse_eq_ok_iff.mp h
  exact parse_eq_ok_iff.mpr ⟨items, [], _, [], hq, spells_format hspells hq width style, blank_nil,
    blank_nil, .inr rfl, by simp⟩

/-- Formatting a query gives a text that parses as the same query. Formatting that text gives what
formatting the first one gives, and only texts with the same query are formatted alike. -/
theorem format_preserves_query {t : Text} {q : Query} (h : parse t = .ok q) (width : Nat)
    (style : Style) : ∃ f, format width style t = .ok f ∧ parse f = .ok q ∧
      (∀ width' style', format width' style' f = format width' style' t) ∧
      ∀ t' q', parse t' = .ok q' → format width style t' = .ok f → q' = q := by
  have hparse := parse_format h width style
  refine ⟨q.format width style, format_of_parse h width style, hparse, ?_, ?_⟩
  · intro width' style'
    rw [format_of_parse hparse, format_of_parse h]
  · intro t' q' h' hformat
    rw [format_of_parse h'] at hformat
    have hparse' := parse_format h' width style
    rw [Except.ok.inj hformat, hparse] at hparse'
    exact (Except.ok.inj hparse').symm

theorem format_preserves_query_glued :
    parse "(a)AND -b  NOT" = .ok (.sequence [.parenthesized (.term "a"), .operator .and,
      .marked .minus (.term "b"), .operator .either, .term "NOT"]) ∧
    ∃ f, format 3 .compact "(a)AND -b  NOT" = .ok f ∧
      parse f = .ok (.sequence [.parenthesized (.term "a"), .operator .and,
        .marked .minus (.term "b"), .operator .either, .term "NOT"]) ∧
      (∀ width' style', format width' style' f = format width' style' "(a)AND -b  NOT") ∧
      ∀ t' q', parse t' = .ok q' → format 3 .compact t' = .ok f →
        q' = .sequence [.parenthesized (.term "a"), .operator .and,
          .marked .minus (.term "b"), .operator .either, .term "NOT"] := by
  have h : parse "(a)AND -b  NOT" = .ok (.sequence [.parenthesized (.term "a"), .operator .and,
      .marked .minus (.term "b"), .operator .either, .term "NOT"]) := by decide +kernel
  exact ⟨h, format_preserves_query h 3 .compact⟩

/-! ## Characters that are not blank -/

/-- The characters of a text that are not blank. -/
def visible (t : Text) : Text := t.filter (!isSpace ·)

theorem visible_append (s t : Text) : visible (s ++ t) = visible s ++ visible t :=
  List.filter_append ..

theorem visible_blank {b : Text} (h : Blank b) : visible b = [] := by
  simpa [visible, Blank] using h

namespace Query

mutual

/-- The tokens of a query in order, with nothing between them. -/
def tokens : Query → Text
  | operator op => op.text
  | parenthesized inner => "(" ++ (inner.tokens ++ ")")
  | marked mark value => mark.text ++ value.tokens
  | field name value => name ++ (":" ++ value.tokens)
  | range opening lower upper closing =>
    opening.opening ++ (lower ++ ("TO" ++ (upper ++ closing.closing)))
  | comparison operand value => operand.text ++ value.tokens
  | regex expression => "/" ++ (expression ++ "/")
  | term raw => raw
  | sequence items => allTokens items

def allTokens : List Query → Text
  | [] => []
  | item :: later => item.tokens ++ allTokens later

end

theorem tokens_ofItems? {items : List Query} {q : Query} (h : ofItems? items = some q) :
    q.tokens = allTokens items := by
  match items, h with
  | [item], rfl => simp [allTokens]
  | _ :: _ :: _, rfl => rw [tokens]

end Query

theorem SpellsValue.visible_eq {q : Query} {s : Text} (h : SpellsValue q s) :
    visible s = visible q.tokens := by
  cases h with
  | range _ _ _ _ h₁ h₂ _ h₃ _ h₄ =>
    simp only [Query.tokens, visible_append, visible_blank h₁, visible_blank h₂, visible_blank h₃,
      visible_blank h₄, List.nil_append]
  | comparison => simp only [Query.tokens]
  | regex => simp only [Query.tokens]
  | word => simp only [Query.tokens]

theorem Spells.visible_eq {items : List Query} {s : Text} (h : Spells items s) :
    visible s = visible (Query.allTokens items) := by
  induction h with
  | word => simp only [Query.allTokens, Query.tokens, List.append_nil]
  | parenthesized _ _ hinner h₁ h₂ ih =>
    simp only [Query.allTokens, Query.tokens, Query.tokens_ofItems? hinner, visible_append, ih,
      visible_blank h₁, visible_blank h₂, List.nil_append, List.append_nil]
  | negated _ hb _ ih =>
    simp only [Query.allTokens, Query.tokens, visible_append, visible_blank hb, ih, List.nil_append,
      List.append_nil]
  | signed _ _ ih =>
    simp only [Query.allTokens, Query.tokens, visible_append, ih, List.append_nil]
  | field _ _ _ hvalue =>
    simp only [Query.allTokens, Query.tokens, visible_append, hvalue.visible_eq, List.append_nil]
  | fieldParenthesized _ _ _ _ ih =>
    simp only [Query.allTokens, Query.tokens, visible_append, ih, List.append_nil]
  | either _ _ _ hb _ _ _ _ ih ih' =>
    simp only [Query.allTokens, Query.tokens, visible_append, visible_blank hb, ih, ih',
      List.nil_append, List.append_nil]
    rfl
  | operator _ _ _ _ h₁ _ h₂ _ _ ih ih' =>
    simp only [Query.allTokens, Query.tokens, visible_append, visible_blank h₁, visible_blank h₂, ih,
      ih', List.nil_append, List.append_nil]

/-- Formatting a text keeps all of its characters that are not blank, in their order. -/
theorem format_preserves_characters {t : Text} {q : Query} (h : parse t = .ok q) (width : Nat)
    (style : Style) : ∃ f, format width style t = .ok f ∧
      f.filter (!isSpace ·) = t.filter (!isSpace ·) := by
  obtain ⟨items, b, s, b', hq, hspells, hb, hb', -, rfl⟩ := parse_eq_ok_iff.mp h
  refine ⟨q.format width style, format_of_parse h width style, ?_⟩
  calc visible (q.format width style)
      = visible (Query.allTokens items) := (spells_format hspells hq width style).visible_eq
    _ = visible s := hspells.visible_eq.symm
    _ = visible (b ++ (s ++ b')) := by
      simp only [visible_append, visible_blank hb, visible_blank hb', List.nil_append,
        List.append_nil]

theorem format_preserves_characters_glued :
    parse "x:[ 1  TO 2]OR(y )" = .ok (.sequence [.field "x" (.range .inclusive "1" "2" .inclusive),
      .operator .or, .parenthesized (.term "y")]) ∧
    ∃ f, format 100 .indented "x:[ 1  TO 2]OR(y )" = .ok f ∧
      f.filter (!isSpace ·) = ("x:[ 1  TO 2]OR(y )" : Text).filter (!isSpace ·) := by
  have h : parse "x:[ 1  TO 2]OR(y )" = .ok (.sequence
      [.field "x" (.range .inclusive "1" "2" .inclusive), .operator .or,
        .parenthesized (.term "y")]) := by decide +kernel
  exact ⟨h, format_preserves_characters h 100 .indented⟩

end SearchQuery
