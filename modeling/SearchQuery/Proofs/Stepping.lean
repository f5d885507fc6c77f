import SearchQuery.Proofs.Fragments

/-! # Splitting one character at a time -/

namespace SearchQuery

theorem charBefore_append (front rest : Text) :
    charBefore (front ++ rest) front.length = front.getLast? := by
  unfold charBefore
  split
  · rename_i hnil
    rw [List.eq_nil_of_length_eq_zero hnil]
    rfl
  · rw [List.getElem?_append_left (by omega), List.getLast?_eq_getElem?]

namespace Pattern

variable {p : Pattern} {r : Recognizer} {settled passed rest : Text} {c : Char}

/-! ## Places -/

/-- The fragments of a piece from a place on. What is settled has its fragments already, and in what is
passed no match was found. -/
def splitAt (p : Pattern) (settled passed rest : Text) : List Fragment :=
  p.splitFrom (settled ++ passed ++ rest) settled.length (settled ++ passed).length

theorem split_eq_splitAt (p : Pattern) (piece : Text) : p.split piece = p.splitAt [] [] piece := rfl

/-- Where a match starts and stops. -/
def span (p : Pattern) (piece : Text) (search : Nat) : Option (Nat × Nat) :=
  (p.matcher piece search).map fun m => (m.start, m.stop)

/-- A round looks at nothing of a match but its ends. -/
theorem round_eq (p : Pattern) (piece : Text) (c : Cursors) :
    p.round piece c = (p.span piece c.search).bind fun (start, stop) =>
      if start = stop ∨ Recognizer.isAt p.notAfter.contains (charBefore piece start) = true then
        if start < piece.length then some ([], ⟨c.last, start + 1⟩) else none
      else
        some ([⟨.neutral, (piece.drop c.last).take (start - c.last)⟩,
          ⟨p.kind, (piece.drop start).take (stop - start)⟩], ⟨stop, stop⟩) := by
  unfold round span
  cases p.matcher piece c.search with
  | none => rfl
  | some m => simp [rejects]

theorem splitFrom_congr {piece : Text} {last search search' : Nat}
    (h : p.span piece search = p.span piece search') :
    p.splitFrom piece last search = p.splitFrom piece last search' := by
  have heq := p.splitFrom_eq piece ⟨last, search⟩
  have heq' := p.splitFrom_eq piece ⟨last, search'⟩
  rw [round_eq, h] at heq
  rw [round_eq] at heq'
  exact heq.trans heq'.symm

theorem span_eq (hp : p.matcher = r.matcher) (front rest : Text) :
    p.span (front ++ rest) front.length =
      (r.search front.getLast? rest).map fun (skipped, n) =>
        (front.length + skipped, front.length + skipped + n) := by
  unfold span
  rw [hp, Recognizer.matcher, dif_pos (by simp)]
  have hbefore := charBefore_append front rest
  have hdrop : (front ++ rest).drop front.length = rest := List.drop_left ..
  split
  · rename_i hnone
    rw [hbefore, hdrop] at hnone
    simp [hnone]
  · rename_i skipped n hsome
    rw [hbefore, hdrop] at hsome
    simp [hsome]

/-! ## Steps -/

/-- No match that counts starts at a place: what is claimed there is nothing, empty, or stands after a
character that rules it out. -/
def NoMatch (p : Pattern) (r : Recognizer) (before : Option Char) (rest : Text) : Prop :=
  ∀ n, r.claim before rest = some n → n = 0 ∨ Recognizer.isAt p.notAfter.contains before = true

theorem splitAt_end (hp : p.matcher = r.matcher) :
    p.splitAt settled passed [] = [⟨.neutral, passed⟩] := by
  have hspan := span_eq hp (settled ++ passed) []
  have heq := p.splitFrom_eq (settled ++ passed ++ []) ⟨settled.length, (settled ++ passed).length⟩
  have hround : p.round (settled ++ passed ++ []) ⟨settled.length, (settled ++ passed).length⟩ =
      none := by
    rw [round_eq, hspan, Recognizer.search]
    cases hclaim : r.claim (settled ++ passed).getLast? [] with
    | none => rfl
    | some n =>
      obtain rfl : n = 0 := by simpa using r.claim_le _ _ _ hclaim
      simp
  rw [hround] at heq
  simpa [splitAt] using heq

theorem splitAt_pass (hp : p.matcher = r.matcher)
    (h : p.NoMatch r (settled ++ passed).getLast? (c :: rest)) :
    p.splitAt settled passed (c :: rest) = p.splitAt settled (passed ++ [c]) rest := by
  have hspan := span_eq hp (settled ++ passed) (c :: rest)
  have hpiece : settled ++ (passed ++ [c]) ++ rest = settled ++ passed ++ c :: rest := by simp
  have hlength : (settled ++ (passed ++ [c])).length = (settled ++ passed).length + 1 := by
    simp only [List.length_append, List.length_singleton]
    omega
  unfold splitAt
  rw [hpiece, hlength]
  cases hclaim : r.claim (settled ++ passed).getLast? (c :: rest) with
  | none =>
    -- Nothing is claimed here, so the search from here finds what the search from the next place does.
    have hlast : (settled ++ (passed ++ [c])).getLast? = some c := by simp
    have hnext := span_eq hp (settled ++ (passed ++ [c])) rest
    rw [hpiece, hlength, hlast] at hnext
    apply splitFrom_congr
    rw [hspan, hnext, Recognizer.search, hclaim, Option.map_map]
    congr 1
    funext found
    simp only [Function.comp_apply, Prod.mk.injEq]
    omega
  | some n =>
    have heq := p.splitFrom_eq (settled ++ passed ++ c :: rest)
      ⟨settled.length, (settled ++ passed).length⟩
    have hcharBefore := charBefore_append (settled ++ passed) (c :: rest)
    have hround : p.round (settled ++ passed ++ c :: rest)
        ⟨settled.length, (settled ++ passed).length⟩ =
        some ([], ⟨settled.length, (settled ++ passed).length + 1⟩) := by
      rw [round_eq, hspan, Recognizer.search, hclaim]
      simp only [Option.map_some, Option.bind_some, Nat.add_zero, hcharBefore]
      rw [if_pos, if_pos]
      · simp
      · exact (h n hclaim).imp_left fun hn => by omega
    rw [hround] at heq
    exact heq

theorem splitAt_token (hp : p.matcher = r.matcher) {token : Text} (hne : token ≠ [])
    (hclaim : r.claim (settled ++ passed).getLast? (token ++ rest) = some token.length)
    (hafter : Recognizer.isAt p.notAfter.contains (settled ++ passed).getLast? = false) :
    p.splitAt settled passed (token ++ rest) =
      ⟨.neutral, passed⟩ :: ⟨p.kind, token⟩ :: p.splitAt (settled ++ passed ++ token) [] rest := by
  have hspan := span_eq hp (settled ++ passed) (token ++ rest)
  have hsearch : r.search (settled ++ passed).getLast? (token ++ rest) = some (0, token.length) := by
    obtain ⟨c, later, rfl⟩ := List.exists_cons_of_ne_nil hne
    rw [List.cons_append] at hclaim ⊢
    rw [Recognizer.search, hclaim]
  have hpos : 0 < token.length := List.length_pos_iff.mpr hne
  have hcharBefore := charBefore_append (settled ++ passed) (token ++ rest)
  have heq := p.splitFrom_eq (settled ++ passed ++ (token ++ rest))
    ⟨settled.length, (settled ++ passed).length⟩
  have hround : p.round (settled ++ passed ++ (token ++ rest))
      ⟨settled.length, (settled ++ passed).length⟩ =
      some ([⟨.neutral, passed⟩, ⟨p.kind, token⟩],
        ⟨(settled ++ passed ++ token).length, (settled ++ passed ++ token).length⟩) := by
    have hpassed : ((settled ++ passed ++ (token ++ rest)).drop settled.length).take
        ((settled ++ passed).length - settled.length) = passed := by simp
    have htoken : ((settled ++ passed ++ (token ++ rest)).drop (settled ++ passed).length).take
        ((settled ++ passed).length + token.length - (settled ++ passed).length) = token := by
      rw [List.drop_left, Nat.add_sub_cancel_left, List.take_left]
    rw [round_eq, hspan, hsearch]
    simp only [Option.map_some, Option.bind_some, Nat.add_zero, hcharBefore, hafter]
    rw [if_neg (by simp; omega), hpassed, htoken, ← List.length_append]
  rw [hround] at heq
  simpa [splitAt] using heq

theorem splitAt_passAll (hp : p.matcher = r.matcher) {run : Text}
    (h : ∀ front c back, run = front ++ c :: back →
      p.NoMatch r (settled ++ passed ++ front).getLast? (c :: (back ++ rest))) :
    p.splitAt settled passed (run ++ rest) = p.splitAt settled (passed ++ run) rest := by
  induction run generalizing passed with
  | nil => rw [List.nil_append, List.append_nil]
  | cons c run ih =>
    have hfirst := h [] c run rfl
    rw [List.append_nil] at hfirst
    rw [List.cons_append, splitAt_pass hp hfirst, ih, List.append_assoc, List.singleton_append]
    rintro front d back rfl
    have hlater := h (c :: front) d back rfl
    simpa using hlater

end Pattern

end SearchQuery
