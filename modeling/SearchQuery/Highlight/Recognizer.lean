import SearchQuery.Text.CaseFold
import SearchQuery.Text.Word

/-! # Recognizers

A recognizer looks at the start of a text and at the character in front of it, and says how many
characters it claims. Recognizers are put together like regular expressions, without backtracking:
what the first part has claimed is settled before the second part starts.
-/

namespace SearchQuery

structure Recognizer where
  /-- The number of characters claimed, given the character in front of them. -/
  claim : Option Char → Text → Option Nat
  claim_le : ∀ before rest n, claim before rest = some n → n ≤ rest.length

namespace Recognizer

/-! ## Single parts -/

def char (p : Char → Bool) : Recognizer where
  claim _ rest :=
    match rest with
    | [] => none
    | c :: _ => if p c then some 1 else none
  claim_le before rest n h := by
    cases rest with
    | nil => simp at h
    | cons c rest =>
      simp only [Option.ite_none_right_eq_some, Option.some.injEq] at h
      simp only [List.length_cons]
      omega

/-- Claims all characters of a kind that stand at the start, possibly none. -/
def run (p : Char → Bool) : Recognizer where
  claim _ rest := some (rest.takeWhile p).length
  claim_le before rest n h := by
    simp only [Option.some.injEq] at h
    rw [← h]
    exact (List.takeWhile_prefix p).length_le

/-- Whether a text starts with a word, whatever the case of its letters. -/
def startsWithWord : Text → Text → Bool
  | [], _ => true
  | _ :: _, [] => false
  | w :: word, c :: rest => sameButCase w c && startsWithWord word rest

theorem length_le_of_startsWithWord {word rest : Text} (h : startsWithWord word rest = true) :
    word.length ≤ rest.length := by
  induction word generalizing rest with
  | nil => simp
  | cons w word ih =>
    cases rest with
    | nil => simp [startsWithWord] at h
    | cons c rest =>
      simp only [startsWithWord, Bool.and_eq_true] at h
      simpa using ih h.2

/-- Claims a word, whatever the case of its letters. -/
def word (w : Text) : Recognizer where
  claim _ rest := if startsWithWord w rest then some w.length else none
  claim_le before rest n h := by
    simp only [Option.ite_none_right_eq_some, Option.some.injEq] at h
    rw [← h.2]
    exact length_le_of_startsWithWord h.1

theorem length_of_delimited {close : Char} {t body after : Text}
    (h : t.delimited close = some (body, after)) : body.length + 1 ≤ t.length := by
  rw [Text.delimited_eq h, List.length_append, List.length_cons]
  omega

/-- Claims what runs up to a delimiter and the delimiter itself, if what is before it is accepted. -/
def upTo (close : Char) (accept : Text → Bool) : Recognizer where
  claim _ rest :=
    match rest.delimited close with
    | some (body, _) => if accept body then some (body.length + 1) else none
    | none => none
  claim_le before rest n h := by
    split at h
    · next body after hd =>
      simp only [Option.ite_none_right_eq_some, Option.some.injEq] at h
      rw [← h.2]
      exact length_of_delimited hd
    · simp at h

/-! ## Boundaries -/

/-- Whether a character is there and of a kind. -/
def isAt (p : Char → Bool) : Option Char → Bool
  | none => false
  | some c => p c

/-- Claims nothing, where exactly one of the two neighbours is an ASCII word character. -/
def boundary : Recognizer where
  claim before rest :=
    if isAt isAsciiWordChar before != isAt isAsciiWordChar rest.head? then some 0 else none
  claim_le before rest n h := by
    simp only [Option.ite_none_right_eq_some, Option.some.injEq] at h
    omega

/-- Claims nothing, where both neighbours or neither are word characters of some script. -/
def noBoundary : Recognizer where
  claim before rest :=
    if isAt isWordChar before == isAt isWordChar rest.head? then some 0 else none
  claim_le before rest n h := by
    simp only [Option.ite_none_right_eq_some, Option.some.injEq] at h
    omega

/-! ## Combinations -/

def append (first second : Recognizer) : Recognizer where
  claim before rest :=
    match first.claim before rest with
    | none => none
    | some n =>
      (second.claim ((rest.take n).getLast?.or before) (rest.drop n)).map (n + ·)
  claim_le before rest m h := by
    split at h
    · simp at h
    · next n hn =>
      obtain ⟨k, hk, rfl⟩ := Option.map_eq_some_iff.1 h
      have h1 := first.claim_le _ _ _ hn
      have h2 := second.claim_le _ _ _ hk
      simp only [List.length_drop] at h2
      omega

instance : Append Recognizer := ⟨append⟩

def orElse (first second : Recognizer) : Recognizer where
  claim before rest := (first.claim before rest).or (second.claim before rest)
  claim_le before rest n h := by
    rcases Option.or_eq_some_iff.1 h with h | ⟨_, h⟩
    · exact first.claim_le _ _ _ h
    · exact second.claim_le _ _ _ h

def never : Recognizer where
  claim _ _ := none
  claim_le before rest n h := by simp at h

def always : Recognizer where
  claim _ _ := some 0
  claim_le before rest n h := by
    simp only [Option.some.injEq] at h
    omega

def oneOf : List Recognizer → Recognizer
  | [] => never
  | first :: later => orElse first (oneOf later)

def optional (part : Recognizer) : Recognizer := orElse part always

def run1 (p : Char → Bool) : Recognizer := char p ++ run p

def wholeWord (w : Text) : Recognizer := boundary ++ word w ++ boundary

/-! ## Searching -/

/-- The leftmost place where something is claimed: how many characters come before it, and how many
are claimed. -/
def search (r : Recognizer) (before : Option Char) : Text → Option (Nat × Nat)
  | [] => (r.claim before []).map (0, ·)
  | c :: rest =>
    match r.claim before (c :: rest) with
    | some n => some (0, n)
    | none => (search r (some c) rest).map fun (skipped, n) => (skipped + 1, n)

theorem search_le {r : Recognizer} {before : Option Char} {rest : Text} {skipped n : Nat}
    (h : r.search before rest = some (skipped, n)) : skipped + n ≤ rest.length := by
  induction rest generalizing before skipped n with
  | nil =>
    obtain ⟨k, hk, heq⟩ := Option.map_eq_some_iff.1 h
    have := r.claim_le _ _ _ hk
    simp only [Prod.mk.injEq, List.length_nil] at heq this ⊢
    omega
  | cons c rest ih =>
    rw [search] at h
    split at h
    · next m hm =>
      have := r.claim_le _ _ _ hm
      simp only [Option.some.injEq, Prod.mk.injEq] at h
      omega
    · obtain ⟨⟨k, m⟩, hk, heq⟩ := Option.map_eq_some_iff.1 h
      simp only [Prod.mk.injEq] at heq
      have := ih hk
      simp only [List.length_cons]
      omega

end Recognizer

end SearchQuery
