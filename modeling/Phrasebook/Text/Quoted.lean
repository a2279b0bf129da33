import Phrasebook.Text.Printable

/-!
# Quoted text

A text inside another value is written between quotes: single ones, unless the text holds
a single quote and no double one. Printable characters stand for themselves; the quote in
use and the backslash are escaped, and everything else is written by its code point. Where
only ASCII may be written, so is everything beyond it.
-/

namespace Phrasebook.Text

/-- The character `'`. -/
def singleQuote : Char := '\x27'

/-- The character `"`. -/
def doubleQuote : Char := '\x22'

/-- The quote to use around characters: single, unless only single ones occur inside. -/
def quoteFor (single double : Bool) : Char :=
  if single && !double then doubleQuote else singleQuote

/-- The escapes that both forms of quoting share. -/
def escape? (quote c : Char) : Option Text :=
  if c = '\\' ∨ c = quote then some ['\\', c]
  else if c = '\n' then some ['\\', 'n']
  else if c = '\r' then some ['\\', 'r']
  else if c = '\t' then some ['\\', 't']
  else none

/-- A character written by its code point. -/
def byCodePoint (c : Char) : Text :=
  if c.toNat < 256 then ['\\', 'x'] ++ hex 2 c.toNat
  else if c.toNat < 65536 then ['\\', 'u'] ++ hex 4 c.toNat
  else ['\\', 'U'] ++ hex 8 c.toNat

/-- One character of a quoted text. -/
def quotedChar (quote c : Char) : Text :=
  match escape? quote c with
  | some escaped => escaped
  | none => if isPrintable c then [c] else byCodePoint c

/-- A text between quotes. -/
def quoted (s : Text) : Text :=
  let quote := quoteFor (s.contains singleQuote) (s.contains doubleQuote)
  [quote] ++ s.flatMap (quotedChar quote) ++ [quote]

/-- A text with everything beyond ASCII written by its code point. -/
def inAscii (s : Text) : Text :=
  s.flatMap fun c => if c.toNat < 128 then [c] else byCodePoint c

/-- One byte of a quoted byte sequence: printable ASCII stands for itself. -/
def quotedByte (quote : Char) (b : UInt8) : Text :=
  let c := Char.ofNat b.toNat
  match escape? quote c with
  | some escaped => escaped
  | none => if 32 ≤ b.toNat ∧ b.toNat < 127 then [c] else ['\\', 'x'] ++ hex 2 b.toNat

/-- A byte sequence between quotes, marked by a leading `b`. -/
def quotedBytes (bytes : List UInt8) : Text :=
  let quote := quoteFor (bytes.contains 39) (bytes.contains 34)
  ['b', quote] ++ bytes.flatMap (quotedByte quote) ++ [quote]

end Phrasebook.Text
