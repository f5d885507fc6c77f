/-! # Texts

A text is a list of characters. Positions in a text are byte offsets into its UTF-8 form, so a
position can fall inside a character; `splitAtByte` moves such a position back to the start of the
character.
-/

namespace SearchQuery

abbrev Text := List Char

instance : Coe String Text := ⟨String.toList⟩

namespace Text

/-- The number of bytes in the UTF-8 form. -/
def byteSize (t : Text) : Nat := t.foldr (fun c size => c.utf8Size + size) 0

/-- What lies before a byte offset and what lies after it. An offset inside a character counts as
the start of that character, and one past the end as the end. -/
def splitAtByte : Nat → Text → Text × Text
  | _, [] => ([], [])
  | n, c :: rest =>
    if c.utf8Size ≤ n then
      let (before, after) := splitAtByte (n - c.utf8Size) rest
      (c :: before, after)
    else
      ([], c :: rest)

def slice (t : Text) (start stop : Nat) : Text :=
  (splitAtByte (stop - start) (splitAtByte start t).2).1

def ofNat (n : Nat) : Text := Nat.toDigits 10 n

/-- Spaces in front, up to the given number of characters. -/
def padLeft (width : Nat) (t : Text) : Text := List.replicate (width - t.length) ' ' ++ t

/-! ## Delimited stretches -/

/-- The body of a stretch that runs to the next `close`, and the text after that delimiter. A
backslash takes the character after it along, whatever it is. There is none if the delimiter is
missing. -/
def delimited (close : Char) : Text → Option (Text × Text)
  | [] => none
  | '\\' :: c :: rest => (delimited close rest).map fun (body, after) => ('\\' :: c :: body, after)
  | c :: rest =>
    if c = close then some ([], rest)
    else (delimited close rest).map fun (body, after) => (c :: body, after)

/-- The body stands at the front, and the delimiter comes next. -/
theorem delimited_eq {close : Char} {t body after : Text}
    (h : t.delimited close = some (body, after)) : t = body ++ close :: after := by
  fun_induction delimited close t generalizing body with
  | case1 => simp at h
  | case2 c rest ih =>
    obtain ⟨⟨b, a⟩, hd, heq⟩ := Option.map_eq_some_iff.mp h
    obtain ⟨rfl, rfl⟩ := Prod.mk.inj heq
    simp [ih hd]
  | case3 rest _ =>
    obtain ⟨rfl, rfl⟩ := Prod.mk.inj (Option.some.inj h)
    rfl
  | case4 c rest _ _ ih =>
    obtain ⟨⟨b, a⟩, hd, heq⟩ := Option.map_eq_some_iff.mp h
    obtain ⟨rfl, rfl⟩ := Prod.mk.inj heq
    simp [ih hd]

/-! ## Runs of a class of characters -/

/-- The characters of a class that a text starts with. A backslash takes the character after it
along, whatever it is. -/
def escapedRun (inClass : Char → Bool) : Text → Text
  | [] => []
  | '\\' :: c :: rest => '\\' :: c :: escapedRun inClass rest
  | c :: rest => if inClass c then c :: escapedRun inClass rest else []

end Text

end SearchQuery
