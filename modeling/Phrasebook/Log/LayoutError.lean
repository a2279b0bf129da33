import Phrasebook.Template.Error
import Phrasebook.Text.Quoted

/-!
# Layout errors

Why a line cannot be laid out: the layout is at fault, or a value does not go with the
conversion that is asked for.
-/

namespace Phrasebook.Log

/-- The two sizes that a directive can give. -/
inductive SizeKind
  | width
  | precision
deriving DecidableEq

namespace SizeKind

/-- The largest size. -/
def limit : SizeKind → Nat
  | .width => 9223372036854775807
  | .precision => 2147483647

/-- The name of a size. -/
def name : SizeKind → Text
  | .width => "width".toList
  | .precision => "precision".toList

/-- The name of the integers that hold a size. -/
def integers : SizeKind → Text
  | .width => "ssize_t".toList
  | .precision => "int".toList

end SizeKind

/-- Why a line cannot be laid out. -/
inductive LayoutError
  /-- The layout has no directive at all. -/
  | noDirective (layout : Text)
  /-- The format for times has a null character. -/
  | nullCharacter
  | incomplete
  | incompleteName
  | unknownField (name : Text)
  | sizeTooBig (kind : SizeKind)
  /-- A size is to be taken from a value that is no integer. -/
  | sizeNotInteger
  /-- A size is to be taken from an integer that is too large. -/
  | sizeOutOfRange (kind : SizeKind)
  | noValueLeft
  | notNumeric (conversion : Char) (kind : Text)
  | notInteger (conversion : Char) (kind : Text)
  | notReal (kind : Text)
  | notCharacter
  | characterOutOfRange
  | tooManyDigits
  | tooLargeForFloat
  /-- An integer has too many digits to be written. -/
  | integerTooLong
  | nanToInteger
  | infinityToInteger
  /-- The line would be too long. -/
  | tooLong
  | unsupported (conversion : Char) (position : Nat)
deriving DecidableEq

namespace LayoutError

/-- A conversion as messages show it: printable ASCII and the character before it as they
are, others by a question mark. -/
def shown (conversion : Char) : Char :=
  if 31 ≤ conversion.toNat ∧ conversion.toNat ≤ 126 then conversion else '?'

/-- The message of an error. -/
def message : LayoutError → Text
  | noDirective layout => "Invalid format '".toList ++ layout ++ "' for '%' style".toList
  | nullCharacter => "embedded null character".toList
  | incomplete => "incomplete format".toList
  | incompleteName => "incomplete format key".toList
  | unknownField name => "Formatting field not found in record: ".toList ++ Text.quoted name
  | sizeTooBig kind => kind.name ++ " too big".toList
  | sizeNotInteger => "* wants int".toList
  | sizeOutOfRange kind => "Python int too large to convert to C ".toList ++ kind.integers
  | noValueLeft => "not enough arguments for format string".toList
  | notNumeric conversion kind =>
    ['%', conversion] ++ " format: a real number is required, not ".toList ++ kind
  | notInteger conversion kind =>
    ['%', conversion] ++ " format: an integer is required, not ".toList ++ kind
  | notReal kind => "must be real number, not ".toList ++ kind
  | notCharacter => "%c requires int or char".toList
  | characterOutOfRange => "%c arg not in range(0x110000)".toList
  | tooManyDigits => "precision too large".toList
  | tooLargeForFloat => "int too large to convert to float".toList
  | integerTooLong => integerTooLongMessage
  | nanToInteger => "cannot convert float NaN to integer".toList
  | infinityToInteger => "cannot convert float infinity to integer".toList
  | tooLong => []
  | unsupported conversion position =>
    "unsupported format character '".toList ++ [shown conversion] ++ "' (0x".toList ++
      Text.hex 0 conversion.toNat ++ ") at index ".toList ++ Text.ofNat position

end LayoutError

end Phrasebook.Log
