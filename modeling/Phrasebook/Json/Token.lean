import Phrasebook.Json.Basic
import Phrasebook.Number.Numeral
import Phrasebook.Platform

/-!
# Tokens of JSON

A text is cut into tokens one at a time, from left to right. What cannot begin a token, a
bad string and an integer that is too long are tokens as well: whether they are at fault,
and for what, depends on what the reader expects in their place. A number is its longest
valid beginning, so a second number may follow it directly.
-/

namespace Phrasebook.Json

/-- A token, or what stands in the place of one. -/
inductive Token
  | beginArray
  | endArray
  | beginObject
  | endObject
  | colon
  | comma
  | scalar (value : Json)
  | string (value : Text)
  /-- A string with a fault at an offset. -/
  | badString (fault : Fault) (offset : Nat)
  /-- An integer with too many digits. -/
  | longInteger (digits : Nat)
  /-- A character that begins no token. -/
  | unknown

/-- The blanks of JSON. -/
def isBlank (c : Char) : Bool :=
  c == ' ' || c == '\t' || c == '\n' || c == '\r'

/-- The value of a hexadecimal digit. -/
def hexDigit? (c : Char) : Option Nat :=
  if '0' ≤ c ∧ c ≤ '9' then some (c.toNat - 48)
  else if 'a' ≤ c ∧ c ≤ 'f' then some (c.toNat - 87)
  else if 'A' ≤ c ∧ c ≤ 'F' then some (c.toNat - 55)
  else none

/-- The value of four hexadecimal digits. -/
def hexDigits? (a b c d : Char) : Option Nat :=
  match hexDigit? a, hexDigit? b, hexDigit? c, hexDigit? d with
  | some a, some b, some c, some d => some (a * 4096 + b * 256 + c * 16 + d)
  | _, _, _, _ => none

/-- The character that a one-letter escape stands for. -/
def unescape? (c : Char) : Option Char :=
  if c = '"' ∨ c = '\\' ∨ c = '/' then some c
  else if c = 'b' then some (Char.ofNat 8)
  else if c = 'f' then some (Char.ofNat 12)
  else if c = 'n' then some '\n'
  else if c = 'r' then some '\r'
  else if c = 't' then some '\t'
  else none

/-- The first half of a pair of escapes for one character. -/
def isHighSurrogate (n : Nat) : Bool :=
  0xD800 ≤ n && n ≤ 0xDBFF

/-- The second half of a pair of escapes for one character. -/
def isLowSurrogate (n : Nat) : Bool :=
  0xDC00 ≤ n && n ≤ 0xDFFF

/-- The character of a code unit. Half a pair by itself stands for no character, and what it is
read as depends on the platform. -/
def ofUnit [Platform] (n : Nat) : Char :=
  if isHighSurrogate n || isLowSurrogate n then Platform.ofSurrogate n else Char.ofNat n

/-- The character of a pair of surrogates. -/
def ofPair (high low : Nat) : Char :=
  Char.ofNat (0x10000 + (high - 0xD800) * 1024 + (low - 0xDC00))

/-- A string that was read: its characters, and what follows it with its offset. -/
structure Scanned where
  value : Text
  offset : Nat
  rest : Text

/-- The result of a scan with one more character in front. -/
def Scanned.cons (c : Char) (s : Scanned) : Scanned :=
  { s with value := c :: s.value }

/-- Read a string from after its opening quote, which stands at `start`. -/
def scanString [Platform] (start : Nat) : (offset : Nat) → Text → Except (Fault × Nat) Scanned
  | _, [] => .error (.unterminatedString, start)
  | offset, c :: rest =>
    if c = '"' then .ok ⟨[], offset + 1, rest⟩
    else if c ≠ '\\' then
      if c.toNat < 32 then .error (.controlCharacter, offset)
      else (scanString start (offset + 1) rest).map (.cons c)
    else
      match rest with
      | [] => .error (.unterminatedString, start)
      | e :: rest =>
        if e ≠ 'u' then
          match unescape? e with
          | none => .error (.escape, offset)
          | some c => (scanString start (offset + 2) rest).map (.cons c)
        else
          match rest with
          | x₁ :: x₂ :: x₃ :: x₄ :: after :: rest =>
            match hexDigits? x₁ x₂ x₃ x₄ with
            | none => .error (.unicodeEscape, offset + 1)
            | some unit =>
              let single (_ : Unit) :=
                (scanString start (offset + 6) (after :: rest)).map (.cons (ofUnit unit))
              if isHighSurrogate unit then
                match after, rest with
                | '\\', 'u' :: y₁ :: y₂ :: y₃ :: y₄ :: next :: rest =>
                  match hexDigits? y₁ y₂ y₃ y₄ with
                  | none => .error (.unicodeEscape, offset + 7)
                  | some second =>
                    if isLowSurrogate second then
                      (scanString start (offset + 12) (next :: rest)).map
                        (.cons (ofPair unit second))
                    else single ()
                | _, _ => single ()
              else single ()
          | _ => .error (.unicodeEscape, offset + 1)

theorem ok_of_map_cons {x : Except (Fault × Nat) Scanned} {c : Char} {r : Scanned}
    (h : x.map (Scanned.cons c) = .ok r) : ∃ y, x = .ok y ∧ r.rest = y.rest := by
  cases x with
  | error e => cases h
  | ok y => cases h; exact ⟨y, rfl, rfl⟩

/-- What follows a string is shorter than the text that was scanned. -/
theorem scanString_rest_length [Platform] {start offset : Nat} {s : Text} {r : Scanned}
    (h : scanString start offset s = .ok r) : r.rest.length < s.length := by
  fun_induction scanString start offset s generalizing r <;>
    grind [ok_of_map_cons]

/-! ## Numbers -/

/-- A number that was read: its literal, whether it is an integer, and what follows it. -/
structure ScannedNumber where
  literal : Text
  isInteger : Bool
  rest : Text

/-- The sign of a number and what follows it. -/
def scanSign : Text → Text × Text
  | '-' :: rest => (['-'], rest)
  | rest => ([], rest)

/-- The whole part of a number: a zero, or digits that do not begin with one. -/
def scanWhole? : Text → Option (Text × Text)
  | '0' :: rest => some (['0'], rest)
  | s =>
    match s.takeWhile Char.isDigit with
    | [] => none
    | digits => some (digits, s.dropWhile Char.isDigit)

/-- The fraction of a number: a point with at least one digit after it. -/
def scanFraction (s : Text) : Text × Text :=
  match s with
  | '.' :: rest =>
    match rest.takeWhile Char.isDigit with
    | [] => ([], s)
    | digits => ('.' :: digits, rest.dropWhile Char.isDigit)
  | _ => ([], s)

/-- The sign of an exponent and what follows it. -/
def scanExponentSign : Text → Text × Text
  | '-' :: rest => (['-'], rest)
  | '+' :: rest => (['+'], rest)
  | rest => ([], rest)

/-- The exponent of a number: the letter, an optional sign, at least one digit. -/
def scanExponent : Text → Text × Text
  | [] => ([], [])
  | e :: rest =>
    if e = 'e' ∨ e = 'E' then
      let signed := scanExponentSign rest
      match signed.2.takeWhile Char.isDigit with
      | [] => ([], e :: rest)
      | found => (e :: signed.1 ++ found, signed.2.dropWhile Char.isDigit)
    else ([], e :: rest)

/-- Read the longest number at the beginning of a text. -/
def scanNumber? (s : Text) : Option ScannedNumber :=
  let signed := scanSign s
  match scanWhole? signed.2 with
  | none => none
  | some (whole, rest) =>
    let fraction := scanFraction rest
    let exponent := scanExponent fraction.2
    some {
      literal := signed.1 ++ whole ++ fraction.1 ++ exponent.1
      isInteger := fraction.1.isEmpty && exponent.1.isEmpty
      rest := exponent.2 }

theorem scanSign_append (s : Text) : (scanSign s).1 ++ (scanSign s).2 = s := by
  unfold scanSign
  split <;> rfl

theorem scanWhole?_append {s whole rest : Text} (h : scanWhole? s = some (whole, rest)) :
    whole ≠ [] ∧ whole ++ rest = s := by
  unfold scanWhole? at h
  split at h
  · cases h; simp
  · split at h
    · cases h
    · rename_i hd
      cases h
      exact ⟨hd, List.takeWhile_append_dropWhile⟩

theorem scanFraction_append (s : Text) : (scanFraction s).1 ++ (scanFraction s).2 = s := by
  unfold scanFraction
  split
  · split
    · rfl
    · simp [List.takeWhile_append_dropWhile]
  · rfl

theorem scanExponentSign_append (s : Text) :
    (scanExponentSign s).1 ++ (scanExponentSign s).2 = s := by
  unfold scanExponentSign
  split <;> rfl

theorem scanExponent_append (s : Text) : (scanExponent s).1 ++ (scanExponent s).2 = s := by
  cases s with
  | nil => rfl
  | cons e rest =>
    by_cases he : e = 'e' ∨ e = 'E'
    · simp only [scanExponent, he, if_true]
      split
      · rfl
      · simp [List.takeWhile_append_dropWhile, scanExponentSign_append]
    · simp [scanExponent, he]

/-- A number and what follows it make up the text that was scanned. -/
theorem scanNumber?_append {s : Text} {n : ScannedNumber} (h : scanNumber? s = some n) :
    n.literal ≠ [] ∧ n.literal ++ n.rest = s := by
  unfold scanNumber? at h
  simp only at h
  split at h
  · cases h
  · rename_i whole rest hw
    cases h
    obtain ⟨hne, hw⟩ := scanWhole?_append hw
    refine ⟨by simp [hne], ?_⟩
    simp only [List.append_assoc, scanExponent_append, scanFraction_append, hw,
      scanSign_append]

/-! ## One token -/

/-- The names that are values by themselves. -/
def names : List (Text × Json) := [
  ("null".toList, .null),
  ("true".toList, .boolean true),
  ("false".toList, .boolean false),
  ("NaN".toList, .number "NaN".toList),
  ("Infinity".toList, .number "Infinity".toList),
  ("-Infinity".toList, .number "-Infinity".toList)]

/-- The name at the beginning of a text, and what follows it. -/
def scanName? (s : Text) : Option (Json × Text) :=
  names.findSome? fun (name, value) => (Text.dropBeginning? name s).map (value, ·)

/-- The token of an integer, or of a number that is none. -/
def numberToken (n : ScannedNumber) : Token :=
  let digits := (n.literal.filter Char.isDigit).length
  if n.isInteger && Numeral.maxDigits < digits then .longInteger digits
  else .scalar (.number n.literal)

/-- The token that a character stands for by itself. -/
def punctuation? (c : Char) : Option Token :=
  if c = '[' then some .beginArray
  else if c = ']' then some .endArray
  else if c = '\x7b' then some .beginObject
  else if c = '\x7d' then some .endObject
  else if c = ':' then some .colon
  else if c = ',' then some .comma
  else none

theorem scanName?_length {s rest : Text} {value : Json} (h : scanName? s = some (value, rest)) :
    rest.length < s.length := by
  unfold scanName? at h
  obtain ⟨⟨name, v⟩, hmem, hdrop⟩ := List.exists_of_findSome?_eq_some h
  obtain ⟨r, hr, hv⟩ := Option.map_eq_some_iff.1 (by exact hdrop)
  cases hv
  rw [Text.dropBeginning?_eq_some_iff] at hr
  have hne : name ≠ [] := by
    simp only [names, List.mem_cons, Prod.mk.injEq, List.not_mem_nil, or_false] at hmem
    rcases hmem with h | h | h | h | h | h <;> simp [h.1]
  have := List.length_pos_iff.2 hne
  rw [hr, List.length_append]
  omega

/-- A token with the offset behind it and the text that follows. -/
structure Lexeme where
  token : Token
  next : Nat
  rest : Text

/-- The token that begins with `c`. After a token that is at fault nothing follows, since
no reader goes on from there. -/
def scanToken [Platform] (offset : Nat) (c : Char) (rest : Text) : Lexeme :=
  match punctuation? c with
  | some token => ⟨token, offset + 1, rest⟩
  | none =>
    if c = '"' then
      match scanString offset (offset + 1) rest with
      | .ok s => ⟨.string s.value, s.offset, s.rest⟩
      | .error (fault, place) => ⟨.badString fault place, offset, []⟩
    else
      match scanName? (c :: rest) with
      | some (value, after) => ⟨.scalar value, offset + (rest.length + 1 - after.length), after⟩
      | none =>
        match scanNumber? (c :: rest) with
        | some n => ⟨numberToken n, offset + n.literal.length, n.rest⟩
        | none => ⟨.unknown, offset, []⟩

theorem scanToken_length [Platform] (offset : Nat) (c : Char) (rest : Text) :
    (scanToken offset c rest).rest.length ≤ rest.length := by
  unfold scanToken
  split
  · simp
  · split
    · split
      · rename_i h
        exact Nat.le_of_lt (scanString_rest_length h)
      · simp
    · split
      · rename_i h
        have := scanName?_length h
        simp only [List.length_cons] at this ⊢
        omega
      · split
        · rename_i h
          obtain ⟨hne, h⟩ := scanNumber?_append h
          have := List.length_pos_iff.2 hne
          have := congrArg List.length h
          simp only [List.length_append, List.length_cons] at this ⊢
          omega
        · simp

/-- The tokens of a text, each with its offset. -/
def tokensFrom [Platform] (offset : Nat) : Text → List (Nat × Token)
  | [] => []
  | c :: rest =>
    if isBlank c then tokensFrom (offset + 1) rest
    else
      let lexeme := scanToken offset c rest
      (offset, lexeme.token) :: tokensFrom lexeme.next lexeme.rest
termination_by s => s.length
decreasing_by
  · simp
  · exact Nat.lt_succ_of_le (scanToken_length offset c rest)

/-- The tokens of a whole text. -/
def tokens [Platform] (s : Text) : List (Nat × Token) :=
  tokensFrom 0 s

end Phrasebook.Json
