import Phrasebook.Log.Moment
import Phrasebook.Number.Numeral
import Phrasebook.Text.Case

/-!
# The text of a moment

A format is text with directives: a percent sign, flags, a width, a modifier, and a letter
for a part of the moment. The flags say what fills the width (`0`, `_`, or `-` for no filling
of numbers) and change the case of words (`^` and `#`). A directive that is not known is
copied. The text may not outgrow the room that a format is given, else it is empty; the
sizes are added up before any width is filled.
-/

namespace Phrasebook.Log

/-- A word in the forms in which a format can ask for it. -/
structure Word where
  plain : Text
  capitals : Text
  swapped : Text

namespace Word

/-- A word with one form. -/
def fixed (s : Text) : Word := ⟨s, s, s⟩

/-- A name, which swaps its case to capitals. -/
def name (s : Text) : Word := ⟨s, Text.upper s, Text.upper s⟩

end Word

/-- A part of a moment. -/
inductive Part
  /-- A number with at least some digits. -/
  | number (digits n : Nat)
  /-- A number with blanks in the place of leading zeros. -/
  | aligned (digits n : Nat)
  | word (word : Word)
  /-- The name of a time zone, whose case is never changed. -/
  | zone (name : Text)

namespace Moment

/-- The half of the day, in its two spellings. -/
def half (m : Moment) : Text × Text :=
  if m.hour < 12 then ("AM".toList, "am".toList) else ("PM".toList, "pm".toList)

/-- The parts that a letter stands for by itself. -/
def parts? (m : Moment) (letter : Char) : Option (List Part) :=
  match letter with
  | 'a' => some [.word (.name (m.weekdayName.take 3))]
  | 'A' => some [.word (.name m.weekdayName)]
  | 'b' | 'h' => some [.word (.name (m.monthName.take 3))]
  | 'B' => some [.word (.name m.monthName)]
  | 'C' => some [.number 2 (m.year / 100)]
  | 'd' => some [.number 2 m.day]
  | 'e' => some [.aligned 2 m.day]
  | 'g' => some [.number 2 (m.thursdayWeek.1 % 100)]
  | 'G' => some [.number 4 m.thursdayWeek.1]
  | 'H' => some [.number 2 m.hour]
  | 'I' => some [.number 2 m.hourOfHalf]
  | 'j' => some [.number 3 (m.dayOfYear + 1)]
  | 'k' => some [.aligned 2 m.hour]
  | 'l' => some [.aligned 2 m.hourOfHalf]
  | 'm' => some [.number 2 m.month]
  | 'M' => some [.number 2 m.minute]
  | 'n' => some [.word (.fixed ['\n'])]
  | 'p' => some [.word ⟨m.half.1, m.half.1, m.half.2⟩]
  | 'P' => some [.word (.fixed m.half.2)]
  | 's' => some [.word (.fixed (Text.ofInt m.seconds))]
  | 'S' => some [.number 2 m.second]
  | 't' => some [.word (.fixed ['\t'])]
  | 'u' => some [.number 1 (m.weekdayFromMonday + 1)]
  | 'U' => some [.number 2 m.sundayWeek]
  | 'V' => some [.number 2 m.thursdayWeek.2]
  | 'w' => some [.number 1 m.weekday]
  | 'W' => some [.number 2 m.mondayWeek]
  | 'y' => some [.number 2 (m.year % 100)]
  | 'Y' => some [.number 4 m.year]
  | 'z' => some [.word (.fixed ['+']), .number 4 0]
  | 'Z' => some [.zone "GMT".toList]
  | '%' => some [.word (.fixed ['%'])]
  | _ => none

/-- The format that a letter is short for. -/
def shorthand? (letter : Char) : Option Text :=
  match letter with
  | 'c' => some "%a %b %e %H:%M:%S %Y".toList
  | 'D' | 'x' => some "%m/%d/%y".toList
  | 'F' => some "%Y-%m-%d".toList
  | 'r' => some "%I:%M:%S %p".toList
  | 'R' => some "%H:%M".toList
  | 'T' | 'X' => some "%H:%M:%S".toList
  | _ => none

end Moment

/-- A text with a filler some times before it. -/
structure Filled where
  count : Nat
  filler : Char
  body : Text

namespace Filled

/-- A text with a filler before it up to a width. -/
def upto (width : Nat) (filler : Char) (body : Text) : Filled :=
  ⟨width - body.length, filler, body⟩

/-- A text as it is. -/
def bare (body : Text) : Filled := ⟨0, ' ', body⟩

/-- The length of the whole text. -/
def size (f : Filled) : Nat :=
  f.count + f.body.length

/-- The whole text. -/
def text (f : Filled) : Text :=
  Text.fill f.count f.filler ++ f.body

theorem length_text (f : Filled) : f.text.length = f.size := by
  simp [text, size, Text.fill]

/-- The length of texts one after the other. -/
def totalSize : List Filled → Nat
  | [] => 0
  | f :: rest => f.size + totalSize rest

theorem length_flatMap_text (pieces : List Filled) :
    (pieces.flatMap text).length = totalSize pieces := by
  induction pieces with
  | nil => rfl
  | cons f rest ih => rw [List.flatMap_cons, List.length_append, length_text, ih, totalSize]

end Filled

/-- What a directive says before its letter. -/
structure Manner where
  flags : Text
  /-- The digits of the width. -/
  digits : Text
  modifier : Option Char
deriving DecidableEq

namespace Manner

/-- The manner where nothing is said. -/
def plain : Manner := ⟨[], [], none⟩

/-- The least length that is asked for. -/
def width (m : Manner) : Nat :=
  Numeral.value (m.digits.map fun c => c.toNat - 48)

/-- Whether a flag says what fills a width. -/
def isPadding (c : Char) : Bool :=
  c == '0' || c == '_' || c == '-'

/-- The last flag that says what fills a width. -/
def padding? (m : Manner) : Option Char :=
  (m.flags.filter isPadding).getLast?

/-- What a directive says before its letter, as it is written. -/
def written (m : Manner) : Text :=
  m.flags ++ m.digits ++ m.modifier.toList

/-- A number, where `filler` is what usually stands before it. -/
def number (m : Manner) (filler : Char) (digits n : Nat) : Filled :=
  let width := max digits m.width
  match m.padding? with
  | some '0' => .upto width '0' (Text.ofNat n)
  | some '_' => .upto width ' ' (Text.ofNat n)
  | some _ => .upto m.width ' ' (Text.ofNat n)
  | none => .upto width filler (Text.ofNat n)

/-- A text that is no number. -/
def filled (m : Manner) (s : Text) : Filled :=
  .upto m.width (if m.padding? = some '0' then '0' else ' ') s

/-- The form of a word that the flags ask for. -/
def form (m : Manner) (w : Word) : Text :=
  if m.flags.contains '#' then w.swapped
  else if m.flags.contains '^' then w.capitals
  else w.plain

/-- A part of a moment. -/
def fill (m : Manner) : Part → Filled
  | .number digits n => m.number '0' digits n
  | .aligned digits n => m.number ' ' digits n
  | .word w => m.filled (m.form w)
  | .zone name => if m.padding? = some '-' then .bare name else m.filled name

/-- A text with each character in its capital form. -/
def capitals (s : Text) : Text :=
  s.map (Text.mapCase Text.upperRuns)

/-- A text in capitals if the flags ask for them. -/
def cased (m : Manner) (s : Text) : Text :=
  if m.flags.contains '^' then capitals s else s

/-- Whether a letter cannot have the modifier. -/
def refuses (m : Manner) (letter : Char) : Bool :=
  match m.modifier with
  | none => false
  | some modifier =>
    "%aADF".toList.contains letter ||
      modifier == 'E' && "bBdegGhHIjklmMSUVwW".toList.contains letter ||
      modifier == 'O' && "cxXY".toList.contains letter

/-- A directive as it is written, from its last percent sign on. -/
def directive (m : Manner) (letter : Option Char) : Text :=
  if letter = some '%' then ['%'] else '%' :: m.written ++ letter.toList

/-- The text of a directive that is not known or refuses its modifier. Only a short name of a
month swaps its case there too. -/
def unknown (m : Manner) (letter : Option Char) : Filled :=
  let swaps := m.flags.contains '#' && (letter == some 'b' || letter == some 'h')
  m.filled (if swaps then capitals (m.directive letter) else m.cased (m.directive letter))

end Manner

namespace Moment

/-- The text of a moment in a format whose directives are single letters. -/
def simpleText (m : Moment) : Text → Text
  | [] => []
  | [c] => [c]
  | c :: letter :: rest =>
    if c = '%' then
      ((m.parts? letter).getD []).flatMap (fun part => (Manner.plain.fill part).text) ++
        m.simpleText rest
    else c :: m.simpleText (letter :: rest)

/-- The text of a directive, in pieces. -/
def directive (m : Moment) (manner : Manner) (letter : Char) : List Filled :=
  if manner.refuses letter then [manner.unknown (some letter)]
  else
    match m.parts? letter, shorthand? letter with
    | some parts, _ => parts.map manner.fill
    | none, some format => [manner.filled (manner.cased (m.simpleText format))]
    | none, none => [manner.unknown (some letter)]

end Moment

namespace TimeFormat

/-- Whether a character is a flag. -/
def isFlag (c : Char) : Bool :=
  Manner.isPadding c || c == '^' || c == '#'

/-- The modifier at the beginning of a text, and what follows it. -/
def takeModifier : Text → Option Char × Text
  | 'E' :: rest => (some 'E', rest)
  | 'O' :: rest => (some 'O', rest)
  | s => (none, s)

/-- What a directive says before its letter, and the text from the letter on. -/
def takeManner (s : Text) : Manner × Text :=
  let rest := s.dropWhile isFlag
  let modified := takeModifier (rest.dropWhile Char.isDigit)
  (⟨s.takeWhile isFlag, rest.takeWhile Char.isDigit, modified.1⟩, modified.2)

theorem takeModifier_append (s : Text) :
    (takeModifier s).1.toList ++ (takeModifier s).2 = s := by
  unfold takeModifier
  split <;> rfl

/-- A manner as it is written and the text from the letter on make up the text. -/
theorem takeManner_append (s : Text) : (takeManner s).1.written ++ (takeManner s).2 = s := by
  simp only [takeManner, Manner.written, List.append_assoc, takeModifier_append,
    List.takeWhile_append_dropWhile]

theorem takeManner_length (s : Text) : (takeManner s).2.length ≤ s.length := by
  have h := congrArg List.length (takeManner_append s)
  rw [List.length_append] at h
  omega

/-- The pieces of the text of a moment in a format. -/
def pieces (m : Moment) : Text → List Filled
  | [] => []
  | c :: rest =>
    if c ≠ '%' then .bare [c] :: pieces m rest
    else
      match _h : takeManner rest with
      | (manner, []) => [manner.unknown none]
      | (manner, letter :: after) => m.directive manner letter ++ pieces m after
termination_by s => s.length
decreasing_by
  · simp
  · have h₁ := takeManner_length rest
    rw [_h] at h₁
    simp only [List.length_cons] at h₁ ⊢
    omega

/-- The room for the text of a format: the next power of two from 256 times its length on,
and 1024 at least. -/
def room (format : Text) : Nat :=
  max 1024 (Nat.nextPowerOfTwo (256 * format.length))

end TimeFormat

namespace Moment

/-- The text of a moment in a format, or nothing where it outgrows its room. -/
def text (m : Moment) (format : Text) : Text :=
  let pieces := TimeFormat.pieces m format
  if Filled.totalSize pieces < TimeFormat.room format then pieces.flatMap Filled.text else []

/-- The text of a moment stays inside the room for its format. -/
theorem length_text_lt (m : Moment) (format : Text) :
    (m.text format).length < TimeFormat.room format := by
  unfold text
  simp only
  split
  · rename_i h
    exact (Filled.length_flatMap_text _).symm ▸ h
  · simp only [List.length_nil, TimeFormat.room]
    omega

/-- The text of a moment where no format is given: date, time and milliseconds. -/
def plain (m : Moment) : Text :=
  m.text "%Y-%m-%d %H:%M:%S".toList ++ [','] ++ Text.padded 3 m.millisecond

end Moment

end Phrasebook.Log
