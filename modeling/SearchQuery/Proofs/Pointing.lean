import Mathlib.Data.List.TakeWhile
import SearchQuery.Proofs.Reader
import SearchQuery.Report

/-! # Pointing at a character -/

namespace SearchQuery

namespace Text

/-! ## Where an offset lies -/

/-- The offset lies between the two parts of the text: at the start of the character that comes next,
inside of it, or, if none comes next, at the end or past it. -/
structure LiesAt (t : Text) (offset : Nat) (front back : Text) : Prop where
  text_eq : t = front ++ back
  front_le : front.byteSize ≤ offset
  lt_next : ∀ c ∈ back.head?, offset < front.byteSize + c.utf8Size

theorem LiesAt.splitAtByte_eq {t front back : Text} {offset : Nat}
    (h : t.LiesAt offset front back) : splitAtByte offset t = (front, back) := by
  obtain ⟨rfl, hle, hlt⟩ := h
  induction front generalizing offset with
  | nil =>
    cases back with
    | nil => rfl
    | cons c rest =>
      have hc : offset < c.utf8Size := by simpa using hlt c rfl
      rw [List.nil_append, splitAtByte, if_neg (by omega)]
  | cons c front ih =>
    rw [byteSize_cons] at hle hlt
    rw [List.cons_append, splitAtByte, if_pos (by omega), ih (by omega)]
    intro d hd
    have := hlt d hd
    omega

theorem liesAt_splitAtByte (t : Text) (offset : Nat) :
    t.LiesAt offset (splitAtByte offset t).1 (splitAtByte offset t).2 := by
  induction t generalizing offset with
  | nil => exact ⟨rfl, by simp [splitAtByte], by simp [splitAtByte]⟩
  | cons c rest ih =>
    rw [splitAtByte]
    split
    · rename_i hle
      obtain ⟨htext, hfront, hlt⟩ := ih (offset - c.utf8Size)
      refine ⟨congrArg (c :: ·) htext, by simp only [byteSize_cons]; omega, ?_⟩
      intro d hd
      have := hlt d hd
      simp only [byteSize_cons]
      omega
    · rename_i hlt
      refine ⟨rfl, by simp, ?_⟩
      intro d hd
      obtain rfl : c = d := by simpa using hd
      simpa using hlt

theorem exists_liesAt (t : Text) (offset : Nat) : ∃ front back, t.LiesAt offset front back :=
  ⟨_, _, t.liesAt_splitAtByte offset⟩

theorem exists_liesAt_cons {t : Text} {offset : Nat} (h : offset < t.byteSize) :
    ∃ front c back, t.LiesAt offset front (c :: back) := by
  obtain ⟨front, back, hlies⟩ := t.exists_liesAt offset
  cases back with
  | nil =>
    have hle := hlies.front_le
    rw [hlies.text_eq, List.append_nil] at h
    omega
  | cons c back => exact ⟨front, c, back, hlies⟩

theorem liesAt_end {t : Text} {offset : Nat} (h : t.byteSize ≤ offset) : t.LiesAt offset t [] :=
  ⟨by simp, h, by simp⟩

theorem LiesAt.splitAround_cons {t front back : Text} {c : Char} {offset : Nat}
    (h : t.LiesAt offset front (c :: back)) : t.splitAround offset = ⟨front, [c], back⟩ := by
  rw [splitAround, h.splitAtByte_eq]

theorem splitAround_end {t : Text} {offset : Nat} (h : t.byteSize ≤ offset) :
    t.splitAround offset = ⟨t, " ", []⟩ := by
  rw [splitAround, (liesAt_end h).splitAtByte_eq]

/-! ## Lines -/

theorem lastLine_of_not_mem {t : Text} (h : '\n' ∉ t) : lastLine t = t := by
  have hall : t.reverse.takeWhile (· ≠ '\n') = t.reverse := by
    rw [List.takeWhile_eq_self_iff]
    intro c hc
    have hne : c ≠ '\n' := fun heq => h (heq ▸ List.mem_reverse.mp hc)
    simpa using hne
  rw [lastLine, hall, List.reverse_reverse]

theorem lastLine_append_newline (s t : Text) : lastLine (s ++ '\n' :: t) = lastLine t := by
  have hstop : ('\n' :: s.reverse).takeWhile (· ≠ '\n') = [] := rfl
  rw [lastLine, lastLine, List.reverse_append, List.reverse_cons, List.append_assoc,
    List.singleton_append, List.takeWhile_append, hstop]
  split
  · rename_i hall
    rw [List.append_nil, (List.takeWhile_prefix _).eq_of_length hall]
  · rfl

theorem newline_not_mem_lastLine (t : Text) : '\n' ∉ lastLine t := by
  intro h
  have := List.mem_takeWhile_imp (List.mem_reverse.mp h)
  simp at this

theorem exists_before_lastLine (t : Text) : ∃ earlier, t = earlier ++ lastLine t := by
  obtain ⟨rest, hrest⟩ := List.takeWhile_prefix (l := t.reverse) (· ≠ '\n')
  refine ⟨rest.reverse, ?_⟩
  have hreverse := congrArg List.reverse hrest
  rw [List.reverse_append, List.reverse_reverse] at hreverse
  exact hreverse.symm

/-- A line without a carriage return at its end. -/
def chomp : Text → Text
  | [] => []
  | ['\r'] => []
  | c :: rest => c :: chomp rest

theorem chomp_cons {c : Char} {rest : Text} (h : c ≠ '\r' ∨ rest ≠ []) :
    chomp (c :: rest) = c :: chomp rest := by
  rw [chomp.eq_def]
  split <;> simp_all

theorem chomp_append (line : Text) {rest : Text} (h : rest ≠ []) :
    chomp (line ++ rest) = line ++ chomp rest := by
  induction line with
  | nil => rfl
  | cons c line ih => rw [List.cons_append, chomp_cons (.inr (by simp [h])), ih, List.cons_append]

theorem byteSize_chomp_le (line : Text) : (chomp line).byteSize ≤ line.byteSize := by
  fun_induction chomp line with
  | case1 => simp
  | case2 => simp
  | case3 c rest _ ih => simpa using ih

theorem lines_cons {c : Char} {rest line : Text} {later : List Text} (hnewline : c ≠ '\n')
    (hreturn : ¬ (c = '\r' ∧ rest.head? = some '\n')) (h : lines rest = line :: later) :
    lines (c :: rest) = (c :: line) :: later := by
  rw [lines.eq_def]
  split <;> simp_all

theorem lines_append_newline {line : Text} (h : '\n' ∉ line) (rest : Text) :
    lines (line ++ '\n' :: rest) = chomp line :: lines rest := by
  induction line with
  | nil => simp [lines, chomp]
  | cons c line ih =>
    rw [List.mem_cons, not_or] at h
    by_cases hlast : c = '\r' ∧ line = []
    · obtain ⟨rfl, rfl⟩ := hlast
      simp [lines, chomp]
    · rw [chomp_cons (not_and_or.mp hlast), List.cons_append]
      apply lines_cons (Ne.symm h.1) ?_ (ih h.2)
      rintro ⟨rfl, hhead⟩
      cases line with
      | nil => simp at hlast
      | cons d line => simp_all

theorem lines_singleton {c : Char} (h : c ≠ '\n') : lines [c] = [[c]] := by
  rw [lines.eq_def]
  split <;> simp_all [lines]

theorem lines_of_not_mem {line : Text} (h : '\n' ∉ line) (hne : line ≠ []) :
    lines line = [line] := by
  induction line with
  | nil => exact absurd rfl hne
  | cons c line ih =>
    rw [List.mem_cons, not_or] at h
    cases line with
    | nil => exact lines_singleton (Ne.symm h.1)
    | cons d line =>
      apply lines_cons (Ne.symm h.1) ?_ (ih h.2 (by simp))
      rintro ⟨-, hhead⟩
      simp_all

theorem newline_not_mem_lines (t : Text) : ∀ line ∈ lines t, '\n' ∉ line := by
  fun_induction lines t with
  | case1 => simp
  | case2 rest ih => simpa using ih
  | case3 rest ih => simpa using ih
  | case4 c rest hnewline _ hrest _ => simpa using Ne.symm hnewline
  | case5 c rest hnewline _ line later hrest ih =>
    rw [hrest, List.forall_mem_cons] at ih
    rw [List.forall_mem_cons]
    exact ⟨List.not_mem_cons_of_ne_of_not_mem (Ne.symm hnewline) ih.1, ih.2⟩

theorem newline_not_mem_lineAt (t : Text) (n : Nat) : '\n' ∉ lineAt t n := by
  rw [lineAt, List.getD_eq_getElem?_getD]
  cases hline : (lines t)[n - 1]? with
  | none => simp
  | some line => exact newline_not_mem_lines t line (List.mem_of_getElem? hline)

/-! ## The line of an offset -/

/-- The line of code that is shown for an offset. -/
def lineOf (t : Text) (offset : Nat) : Text := t.lineAt (t.positionAt offset).line

/-- That line, in the parts in which it is shown. -/
def markedLine (t : Text) (offset : Nat) : Split :=
  (t.lineOf offset).splitAround (t.offsetInLine offset)

theorem lineAt_append (front back : Text) :
    lineAt (front ++ back) (front.count '\n' + 1) = lineAt (lastLine front ++ back) 1 := by
  induction hn : front.length using Nat.strong_induction_on generalizing front with
  | _ n ih =>
    by_cases h : '\n' ∈ front
    · obtain ⟨line, rest, rfl, hline⟩ := List.eq_append_cons_of_mem h
      rw [lastLine_append_newline, ← ih rest.length (by simp at hn; omega) rest rfl]
      rw [List.append_assoc, List.cons_append, lineAt, lines_append_newline hline, lineAt]
      simp [List.count_append, List.count_eq_zero.mpr hline]
    · rw [lastLine_of_not_mem h, List.count_eq_zero.mpr h]

/-- No character follows on this line. -/
def endsLine : Text → Bool
  | [] => true
  | '\n' :: _ => true
  | '\r' :: '\n' :: _ => true
  | _ => false

theorem firstLine_of_not_mem {t : Text} (h : '\n' ∉ t) : lineAt t 1 = t := by
  by_cases hne : t = []
  · rw [hne]
    rfl
  · rw [lineAt, lines_of_not_mem h hne]
    rfl

theorem firstLine_append_newline {line : Text} (h : '\n' ∉ line) (rest : Text) :
    lineAt (line ++ '\n' :: rest) 1 = chomp line := by
  rw [lineAt, lines_append_newline h]
  rfl

/-- A line that ends holds nothing more, and possibly no carriage return that stood last. -/
theorem byteSize_firstLine_le {line back : Text} (hline : '\n' ∉ line)
    (hback : endsLine back = true) : (lineAt (line ++ back) 1).byteSize ≤ line.byteSize := by
  fun_cases endsLine back with
  | case1 =>
    rw [List.append_nil, firstLine_of_not_mem hline]
  | case2 rest =>
    rw [firstLine_append_newline hline]
    exact byteSize_chomp_le line
  | case3 rest =>
    have hreturn : '\n' ∉ line ++ ['\r'] := by simpa using hline
    rw [← List.singleton_append, ← List.append_assoc, firstLine_append_newline hreturn,
      chomp_append line (by simp)]
    simp [chomp]
  | case4 => simp [endsLine] at hback

theorem exists_firstLine {line back : Text} {c : Char} (hline : '\n' ∉ line)
    (hback : endsLine (c :: back) = false) :
    ∃ after, lineAt (line ++ c :: back) 1 = line ++ c :: after := by
  have hc : c ≠ '\n' := by
    rintro rfl
    simp [endsLine] at hback
  by_cases h : '\n' ∈ back
  · obtain ⟨s, rest, rfl, hs⟩ := List.eq_append_cons_of_mem h
    have hlast : c ≠ '\r' ∨ s ≠ [] := by
      refine not_and_or.mp ?_
      rintro ⟨rfl, rfl⟩
      simp [endsLine] at hback
    have hnewline : '\n' ∉ line ++ c :: s := by simp [hline, hs, Ne.symm hc]
    refine ⟨chomp s, ?_⟩
    rw [← List.cons_append, ← List.append_assoc, firstLine_append_newline hnewline,
      chomp_append line (by simp), chomp_cons hlast]
  · have hnewline : '\n' ∉ line ++ c :: back := by simp [hline, h, Ne.symm hc]
    exact ⟨back, firstLine_of_not_mem hnewline⟩

theorem offsetInLine_eq {t front back : Text} {offset : Nat} (h : t.LiesAt offset front back) :
    offsetInLine t offset =
      (lastLine front).byteSize + (min offset t.byteSize - front.byteSize) := by
  obtain ⟨earlier, hearlier⟩ := exists_before_lastLine front
  have hsize := congrArg byteSize hearlier
  rw [byteSize_append] at hsize
  have htext : front.byteSize ≤ t.byteSize := by
    rw [h.text_eq, byteSize_append]
    omega
  have hle := h.front_le
  rw [offsetInLine, h.splitAtByte_eq]
  simp only
  omega

theorem LiesAt.lineOf_eq {t front back : Text} {offset : Nat} (h : t.LiesAt offset front back) :
    t.lineOf offset = lineAt (lastLine front ++ back) 1 := by
  rw [lineOf, positionAt, h.splitAtByte_eq, h.text_eq, lineAt_append]

theorem LiesAt.column_eq {t front back : Text} {offset : Nat} (h : t.LiesAt offset front back) :
    (t.positionAt offset).column = (lastLine front).length + 1 := by
  rw [positionAt, h.splitAtByte_eq]

theorem LiesAt.markedLine_end {t front back : Text} {offset : Nat}
    (h : t.LiesAt offset front back) (hback : endsLine back = true) :
    t.markedLine offset = ⟨t.lineOf offset, " ", []⟩ := by
  apply splitAround_end
  have hline := byteSize_firstLine_le (newline_not_mem_lastLine front) hback
  rw [offsetInLine_eq h, h.lineOf_eq]
  omega

theorem LiesAt.exists_markedLine {t front back : Text} {c : Char} {offset : Nat}
    (h : t.LiesAt offset front (c :: back)) (hback : endsLine (c :: back) = false) :
    ∃ after, t.lineOf offset = lastLine front ++ c :: after ∧
      t.markedLine offset = ⟨lastLine front, [c], after⟩ := by
  obtain ⟨after, hafter⟩ := exists_firstLine (newline_not_mem_lastLine front) hback
  have hcode : t.lineOf offset = lastLine front ++ c :: after := h.lineOf_eq.trans hafter
  have hlt : offset < front.byteSize + c.utf8Size := h.lt_next c rfl
  have hle := h.front_le
  have hoffset := offsetInLine_eq h
  -- The offset is as far behind the start of the character on the line as it is in the text.
  have hlies : (t.lineOf offset).LiesAt (t.offsetInLine offset) (lastLine front) (c :: after) := by
    refine ⟨hcode, by omega, ?_⟩
    intro d hd
    obtain rfl : c = d := by simpa using hd
    omega
  exact ⟨after, hcode, hlies.splitAround_cons⟩

end Text

/-! ## The caret -/

theorem newline_not_mem_ofNat (n : Nat) : '\n' ∉ Text.ofNat n := by
  intro h
  have hdigit := @Nat.isDigit_of_mem_toDigits 10 n '\n' (by omega) (by omega) h
  simp at hdigit

/-- The second line of a message holds the character, and a caret stands under it. -/
def CaretUnder (message before : Text) (c : Char) (after : Text) : Prop :=
  ∃ heading rest, message.splitOn '\n' =
    heading :: (before ++ c :: after) :: (List.replicate before.length ' ' ++ ['^']) :: rest

namespace Mismatch

theorem newline_not_mem_heading (m : Mismatch) : '\n' ∉ m.heading := by
  have hline := newline_not_mem_ofNat m.position.line
  have hcolumn := newline_not_mem_ofNat m.position.column
  unfold heading
  -- The digits are put away first, since looking for an append in them means computing them.
  generalize Text.ofNat m.position.line = line at hline ⊢
  generalize Text.ofNat m.position.column = column at hcolumn ⊢
  simp [hline, hcolumn]

theorem newline_not_mem_gutter (m : Mismatch) : '\n' ∉ m.gutter := by
  have hline := newline_not_mem_ofNat m.position.line
  unfold gutter
  generalize Text.ofNat m.position.line = line at hline ⊢
  simp [hline]

theorem caretLine_eq (gutter before : Text) :
    ("  " ++ Text.padLeft (gutter.length + (before.length + 1)) "^" : Text) =
      List.replicate ("> " ++ gutter ++ before : Text).length ' ' ++ ['^'] := by
  have hindent : ∀ n, ("  " ++ List.replicate n ' ' : Text) = List.replicate (n + 2) ' ' :=
    fun _ => rfl
  have hlength : ("> " ++ gutter ++ before : Text).length = gutter.length + before.length + 2 := by
    rw [List.length_append, List.length_append, show ("> " : Text).length = 2 from rfl]
    omega
  rw [Text.padLeft, ← List.append_assoc, hindent, hlength]
  rfl

/-- The caret stands under the character that comes behind as many others as the column says. -/
theorem caretUnder {m : Mismatch} {before after : Text} {c : Char}
    (hcode : m.source.lineOf m.offset = before ++ c :: after)
    (hcolumn : m.position.column = before.length + 1) :
    CaretUnder m.message ("> " ++ m.gutter ++ before) c after := by
  have hmessage : m.message = m.heading ++ '\n' :: (("> " ++ m.gutter ++ m.source.lineOf m.offset) ++
      '\n' :: ("  " ++ Text.padLeft (m.gutter.length + m.position.column) "^" ++
      '\n' :: ("Expected " ++ m.expectedText))) := by
    simp only [message, List.append_assoc]
    rfl
  have hcodeLine : '\n' ∉ ("> " ++ m.gutter ++ m.source.lineOf m.offset : Text) := by
    simp only [List.mem_append, not_or]
    exact ⟨⟨by decide, m.newline_not_mem_gutter⟩, Text.newline_not_mem_lineAt _ _⟩
  rw [CaretUnder, hmessage, hcolumn, caretLine_eq,
    List.splitOn_append_cons_self_of_not_mem m.newline_not_mem_heading,
    List.splitOn_append_cons_self_of_not_mem hcodeLine,
    List.splitOn_append_cons_self_of_not_mem (by simp), hcode, ← List.append_assoc]
  exact ⟨_, _, rfl⟩

end Mismatch

/-! ## The marked line -/

theorem exists_dropWhile_append {p : Char → Bool} {c : Char} (h : p c = false) (lead rest : Text) :
    ∃ kept, (lead ++ c :: rest).dropWhile p = kept ++ c :: rest := by
  have hrest : (c :: rest).dropWhile p = c :: rest := List.dropWhile_cons_of_neg (by simp [h])
  rw [List.dropWhile_append]
  split
  · exact ⟨[], hrest⟩
  · exact ⟨lead.dropWhile p, rfl⟩

theorem infix_trimAscii {first last : Char} (hfirst : isAsciiSpace first = false)
    (hlast : isAsciiSpace last = false) (lead inner trail : Text) :
    first :: (inner ++ [last]) <:+: Text.trimAscii (lead ++ first :: (inner ++ last :: trail)) := by
  obtain ⟨front, hfront⟩ := exists_dropWhile_append hfirst lead (inner ++ last :: trail)
  obtain ⟨back, hback⟩ :=
    exists_dropWhile_append hlast trail.reverse (front ++ first :: inner).reverse
  have hreverse : (front ++ first :: (inner ++ last :: trail)).reverse =
      trail.reverse ++ last :: (front ++ first :: inner).reverse := by simp
  refine ⟨front, back.reverse, ?_⟩
  rw [Text.trimAscii, hfront, hreverse, hback]
  simp

/-- The line of code as a report shows it. -/
def Report.codeLine (m : Text.Split) : Text :=
  bar ++ " " ++ m.before ++ Terminal.brightRed (Terminal.underline m.culprit) ++ m.after ++ "\n"

theorem Report.codeLine_infix_full (error : QueryError) (file source : Text) :
    codeLine (source.markedLine error.offset) <:+: full error file source := by
  let position := source.positionAt error.offset
  let number := Text.ofNat position.line
  let blank : Text := List.replicate (max 3 number.length) ' '
  let lead : Text := "\n" ++ concise error file source ++ "\n\n" ++ blank ++ " " ++ bar ++ "\n" ++
    Terminal.brightBlue (Text.padLeft (max 3 number.length) number) ++ " "
  let trail : Text := " " ++ Terminal.brightRed (Text.padLeft position.column "^") ++ "\n\n" ++
    error.diagnosis.details ++ "\n"
  have hfull : full error file source = Text.trimAscii
      (lead ++ (codeLine (source.markedLine error.offset) ++ (blank ++ " " ++ bar ++ trail))) := by
    simp only [full, codeLine, lead, trail, blank, number, position, mark, List.append_assoc]
    rfl
  -- The bars before the code and in the line below it keep the line from being trimmed.
  let inner : Text := (codeLine (source.markedLine error.offset)).tail ++ (blank ++ " " ++ bar.dropLast)
  have hinner : codeLine (source.markedLine error.offset) ++ (blank ++ " " ++ bar ++ trail) =
      '\x1b' :: (inner ++ 'm' :: trail) := by
    simp only [inner, List.append_assoc]
    rfl
  have hshown := infix_trimAscii (show isAsciiSpace '\x1b' = false by decide)
    (show isAsciiSpace 'm' = false by decide) lead inner trail
  rw [← hinner, ← hfull] at hshown
  have hprefix : codeLine (source.markedLine error.offset) <+: '\x1b' :: (inner ++ ['m']) := by
    refine ⟨blank ++ " " ++ bar.dropLast ++ ['m'], ?_⟩
    simp only [inner, List.append_assoc]
    rfl
  exact hprefix.isInfix.trans hshown

example : Text.markedLine "a\r\nüb" 4 = ⟨[], "ü", "b"⟩ := by decide

end SearchQuery
