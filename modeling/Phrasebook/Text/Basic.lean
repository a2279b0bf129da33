/-!
# Text as a list of code points

Every length, slice and position in this library counts code points, so text is a
list of characters. The functions here cut text at separators and trim its ends;
each of them keeps the order of the characters it returns.
-/

namespace Phrasebook

/-- A text is the list of its code points. -/
abbrev Text := List Char

namespace Text

/-- The pieces between occurrences of one separator. There is always at least one. -/
def splitOn (sep : Char) : Text → List Text
  | [] => [[]]
  | c :: rest =>
    if c = sep then [] :: splitOn sep rest
    else (splitOn sep rest).modifyHead (c :: ·)

@[simp] theorem splitOn_nil (sep : Char) : splitOn sep [] = [[]] := rfl

theorem splitOn_cons_self (sep : Char) (rest : Text) :
    splitOn sep (sep :: rest) = [] :: splitOn sep rest := by
  simp [splitOn]

theorem splitOn_cons_of_ne {sep c : Char} (h : c ≠ sep) (rest : Text) :
    splitOn sep (c :: rest) = (splitOn sep rest).modifyHead (c :: ·) := by
  simp [splitOn, h]

theorem splitOn_ne_nil (sep : Char) (s : Text) : splitOn sep s ≠ [] := by
  induction s with
  | nil => simp
  | cons c rest ih =>
    by_cases h : c = sep
    · simp [splitOn, h]
    · simp [splitOn, h, ih]

/-- The first piece of `splitOn`: the text before the first separator. -/
def before (sep : Char) (s : Text) : Text :=
  s.takeWhile (· != sep)

/-- What stands before the first occurrence of a character, and what stands behind it. -/
def cutAt? (c : Char) : Text → Option (Text × Text)
  | [] => none
  | d :: rest =>
    if d = c then some ([], rest)
    else (cutAt? c rest).map fun (before, behind) => (d :: before, behind)

theorem cutAt?_eq_none_iff {c : Char} {s : Text} : cutAt? c s = none ↔ c ∉ s := by
  induction s with
  | nil => simp [cutAt?]
  | cons d rest ih =>
    by_cases h : d = c
    · simp [cutAt?, h]
    · simp [cutAt?, h, ih, Ne.symm h]

theorem cutAt?_eq_some_iff {c : Char} {s before behind : Text} :
    cutAt? c s = some (before, behind) ↔ c ∉ before ∧ s = before ++ c :: behind := by
  induction s generalizing before with
  | nil => simp [cutAt?]
  | cons d rest ih =>
    rw [cutAt?]
    split
    · rename_i h
      subst h
      cases before with
      | nil => simp [eq_comm]
      | cons e before => simp +contextual [eq_comm]
    · rename_i h
      cases before with
      | nil => simp [h]
      | cons e before =>
        simp only [Option.map_eq_some_iff, Prod.exists, Prod.mk.injEq, List.cons.injEq,
          List.cons_append, List.mem_cons, not_or]
        constructor
        · rintro ⟨a, b, hcut, ⟨rfl, rfl⟩, rfl⟩
          obtain ⟨ha, hrest⟩ := ih.1 hcut
          exact ⟨⟨Ne.symm h, ha⟩, rfl, hrest⟩
        · rintro ⟨⟨-, ha⟩, rfl, hrest⟩
          exact ⟨before, behind, ih.2 ⟨ha, hrest⟩, ⟨rfl, rfl⟩, rfl⟩

theorem length_of_cutAt? {c : Char} {s before behind : Text}
    (h : cutAt? c s = some (before, behind)) : behind.length < s.length := by
  rw [(cutAt?_eq_some_iff.1 h).2, List.length_append, List.length_cons]
  omega

/-- Drop characters of a class from both ends. -/
def trim (blank : Char → Bool) (s : Text) : Text :=
  (((s.dropWhile blank).reverse).dropWhile blank).reverse

/-- Join pieces with a separating text. -/
def join (sep : Text) : List Text → Text
  | [] => []
  | [piece] => piece
  | piece :: rest => piece ++ sep ++ join sep rest

@[simp] theorem join_nil (sep : Text) : join sep [] = [] := rfl

@[simp] theorem join_singleton (sep piece : Text) : join sep [piece] = piece := rfl

theorem join_cons_cons (sep piece next : Text) (rest : List Text) :
    join sep (piece :: next :: rest) = piece ++ sep ++ join sep (next :: rest) := rfl

/-- What is left of a text after a given beginning, if it begins so. -/
def dropBeginning? : (beginning : Text) → Text → Option Text
  | [], s => some s
  | _ :: _, [] => none
  | a :: beginning, c :: s => if a = c then dropBeginning? beginning s else none

/-- Whether a text holds another one anywhere. -/
def holds (part : Text) : Text → Bool
  | [] => part.isEmpty
  | c :: rest => (dropBeginning? part (c :: rest)).isSome || holds part rest

theorem dropBeginning?_eq_some_iff {beginning s rest : Text} :
    dropBeginning? beginning s = some rest ↔ s = beginning ++ rest := by
  induction beginning generalizing s with
  | nil => simp [dropBeginning?]
  | cons a beginning ih =>
    cases s with
    | nil => simp [dropBeginning?]
    | cons c s =>
      by_cases h : a = c
      · simp [dropBeginning?, h, ih]
      · simp [dropBeginning?, h, Ne.symm h]

/-- What is left of a text before a given ending, if it ends so. -/
def dropEnding? (ending s : Text) : Option Text :=
  (dropBeginning? ending.reverse s.reverse).map List.reverse

theorem dropEnding?_eq_some_iff {ending s rest : Text} :
    dropEnding? ending s = some rest ↔ s = rest ++ ending := by
  rw [dropEnding?, Option.map_eq_some_iff]
  constructor
  · rintro ⟨reversed, hreversed, rfl⟩
    rw [← List.reverse_inj, dropBeginning?_eq_some_iff.1 hreversed]
    simp
  · rintro rfl
    refine ⟨rest.reverse, ?_, rest.reverse_reverse⟩
    rw [dropBeginning?_eq_some_iff, List.reverse_append]

/-- The decimal text of a natural number. -/
def ofNat (n : Nat) : Text :=
  Nat.toDigits 10 n

/-- The decimal text of an integer, with a sign only when it is negative. -/
def ofInt : Int → Text
  | .ofNat n => ofNat n
  | .negSucc n => '-' :: ofNat (n + 1)

/-- Repeat a character. -/
def fill (n : Nat) (c : Char) : Text :=
  List.replicate n c

/-- A number with at least `width` digits. -/
def padded (width n : Nat) : Text :=
  let digits := ofNat n
  fill (width - digits.length) '0' ++ digits

/-- The ASCII letters in lower case, all other characters as they are. -/
def asciiLower (s : Text) : Text :=
  s.map fun c => if 'A' ≤ c ∧ c ≤ 'Z' then Char.ofNat (c.toNat + 32) else c

/-- A text with every line end turned into a line feed. -/
def withLineFeeds : Text → Text
  | [] => []
  | [c] => [if c = '\r' then '\n' else c]
  | c :: d :: rest =>
    if c = '\r' then
      if d = '\n' then '\n' :: withLineFeeds rest else '\n' :: withLineFeeds (d :: rest)
    else c :: withLineFeeds (d :: rest)

/-- The lower case hexadecimal digits of a number, at least `width` of them. -/
def hex (width n : Nat) : Text :=
  let digits := Nat.toDigits 16 n
  fill (width - digits.length) '0' ++ digits

end Text

end Phrasebook
