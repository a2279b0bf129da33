import Phrasebook.Text.Basic

/-!
# Errors of filling a template

A template is never malformed: what is no span is literal text. Filling one can fail only
for what a span asks of the arguments.
-/

namespace Phrasebook

/-- The message for an integer of too many digits. -/
def numeralTooLongMessage (digits : Nat) : Text :=
  "Exceeds the limit (4300 digits) for integer string conversion: value has ".toList ++
    Text.ofNat digits ++
    " digits; use sys.set_int_max_str_digits() to increase the limit".toList

/-- The message for an integer that has too many digits to be written. -/
def integerTooLongMessage : Text :=
  ("Exceeds the limit (4300 digits) for integer string conversion; " ++
    "use sys.set_int_max_str_digits() to increase the limit").toList

namespace Template

/-- Why a template cannot be filled. -/
inductive FormatError
  /-- A position is written with more digits than can be converted. -/
  | numeralTooLong (digits : Nat)
  /-- A selector counts with an infinite float. -/
  | infiniteIndex
  /-- A selector has nothing to choose from. -/
  | noChoices
  /-- A value holds an integer of more digits than can be written. -/
  | integerTooLong
deriving DecidableEq

/-- The message of an error. -/
def FormatError.message : FormatError → Text
  | .numeralTooLong digits => numeralTooLongMessage digits
  | .infiniteIndex => "cannot convert float infinity to integer".toList
  | .noChoices => "list index out of range".toList
  | .integerTooLong => integerTooLongMessage

end Template

end Phrasebook
