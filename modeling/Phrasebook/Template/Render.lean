import Phrasebook.Template.Braces
import Phrasebook.Template.Reference
import Phrasebook.Value.Integer
import Phrasebook.Value.Text

/-!
# Filling a template

A span is a reference, alone or with an operator behind it. A question mark selects one of
the choices behind it by the integer that the reference stands for; a colon announces a
number pattern, which changes nothing. A fragment is filled while it is scanned, from left to
right, and a template by filling the fragments between its doubled braces and putting single
braces between what comes out. The first span that cannot be filled is the error of the whole
template.
-/

namespace Phrasebook.Template

variable [Platform]

/-- Choose by an index; past the last choice it is the last one. -/
def select (value : Value) (choices : List Text) : Except FormatError Text :=
  match value.asInteger with
  | .none => .ok []
  | .infinite => .error .infiniteIndex
  | .integer n =>
    if n < 0 then .ok []
    else
      match choices[min n.toNat (choices.length - 1)]? with
      | some choice => .ok choice
      | none => .error .noChoices

/-- Put a value in as it is written. -/
def insert (value : Value) : Except FormatError Text :=
  if value.hasText then .ok value.substituted else .error .integerTooLong

/-- Whether a character separates a reference from its operator. -/
def isOperator (c : Char) : Bool :=
  c == ':' || c == '?'

/-- The reference of a span: what stands before its operator. -/
def referenceOf (pattern : Text) : Text :=
  pattern.takeWhile (!isOperator ·)

/-- The operator of a span and what follows it. -/
def operationOf (pattern : Text) : Text :=
  pattern.dropWhile (!isOperator ·)

/-- The text that a span stands for. -/
def expand (pattern : Text) (args : List Value) : Except FormatError Text :=
  match resolve (referenceOf pattern) args with
  | .error e => .error e
  | .ok value =>
    match operationOf pattern with
    | '?' :: choices => select value (Text.splitOn '|' choices)
    | _ => insert value

/-- Fill the spans of a fragment, in which no doubled brace counts. Two braces with nothing
between them are no span, and the scan goes on at the second one. -/
def interpolate (fragment : Text) (args : List Value) : Except FormatError Text :=
  match _hopening : Text.cutAt? '{' fragment with
  | none => .ok fragment
  | some (before, opened) =>
    match _hclosing : Text.cutAt? '}' opened with
    | none => .ok fragment
    | some (pattern, behind) =>
      if pattern.isEmpty then (interpolate opened args).map (before ++ '{' :: ·)
      else
        match expand pattern args with
        | .error e => .error e
        | .ok text => (interpolate behind args).map (before ++ text ++ ·)
termination_by fragment.length
decreasing_by
  · exact Text.length_of_cutAt? _hopening
  · exact Nat.lt_trans (Text.length_of_cutAt? _hclosing) (Text.length_of_cutAt? _hopening)

/-- Fill the fragments of a piece, in which no doubled opening brace is left. -/
def fillPiece (piece : Text) (args : List Value) : Except FormatError Text :=
  ((splitClosing piece).mapM fun fragment => interpolate fragment args).map (Text.join ['}'])

/-- Fill a template. -/
def format (template : Text) (args : List Value) : Except FormatError Text :=
  ((splitOpening template).mapM fun piece => fillPiece piece args).map (Text.join ['{'])

end Phrasebook.Template
