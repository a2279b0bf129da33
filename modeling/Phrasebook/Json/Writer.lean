import Phrasebook.Json.Basic

/-!
# Writing JSON

The text of a dictionary of texts and nulls: members in order, a blank after each comma and
colon, and only those characters escaped that must be.
-/

namespace Phrasebook.Json

/-- One character of a written string. -/
def writtenChar (c : Char) : Text :=
  if c = '"' then ['\\', '"']
  else if c = '\\' then ['\\', '\\']
  else if c = '\n' then ['\\', 'n']
  else if c = '\r' then ['\\', 'r']
  else if c = '\t' then ['\\', 't']
  else if c.toNat = 8 then ['\\', 'b']
  else if c.toNat = 12 then ['\\', 'f']
  else if c.toNat < 32 then ['\\', 'u'] ++ Text.hex 4 c.toNat
  else [c]

/-- A written string. -/
def writtenString (s : Text) : Text :=
  ['"'] ++ s.flatMap writtenChar ++ ['"']

/-- A written value: a string, or a null for a missing one. -/
def writtenValue : Option Text → Text
  | none => "null".toList
  | some s => writtenString s

/-- A written member. -/
def writtenMember (key : Text) (value : Option Text) : Text :=
  writtenString key ++ [':', ' '] ++ writtenValue value

/-- The text of a dictionary. -/
def write (d : Dict Text (Option Text)) : Text :=
  ['\x7b'] ++ Text.join [',', ' '] (d.map fun (key, value) => writtenMember key value) ++ ['\x7d']

end Phrasebook.Json
