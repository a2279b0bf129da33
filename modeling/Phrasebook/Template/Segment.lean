import Phrasebook.Template.Render

/-!
# Segments of a template

A template can be seen as a row of segments: literal text, and spans that are filled from the
arguments. The segments depend on the template alone. A span is an opening brace, at least
one other character than a closing brace, and a closing brace; an opening brace that begins
no span is literal.

Filling a template never makes the row. That it comes to the same as filling one segment after
the other is a theorem, `format_eq_render`.
-/

namespace Phrasebook.Template

/-- A part of a template. -/
inductive Segment
  | literal (text : Text)
  /-- The characters between the braces of a span. -/
  | span (pattern : Text)
deriving DecidableEq

/-- Put literal text before segments, as part of the first one if that is literal. -/
def prependText (text : Text) : List Segment → List Segment
  | .literal t :: rest => .literal (text ++ t) :: rest
  | segments => .literal text :: segments

/-- The segments of what follows an opening brace, if one is `pending` with the characters
read after it, the last one first, or else of any text. -/
def scanSpans : (pending : Option Text) → Text → List Segment
  | none, [] => []
  | some read, [] => [.literal ('{' :: read.reverse)]
  | none, c :: rest =>
    if c = '{' then scanSpans (some []) rest else prependText [c] (scanSpans none rest)
  | some read, c :: rest =>
    if c ≠ '}' then scanSpans (some (c :: read)) rest
    else if read.isEmpty then prependText ['{', '}'] (scanSpans none rest)
    else .span read.reverse :: scanSpans none rest

/-- The segments of a fragment, in which no doubled brace counts. -/
def spans (fragment : Text) : List Segment :=
  scanSpans none fragment

/-- Rows of segments with the same literal between any two. -/
def joinSegments (separator : Text) : List (List Segment) → List Segment
  | [] => []
  | [row] => row
  | row :: rest => row ++ .literal separator :: joinSegments separator rest

/-- The segments of a whole template. -/
def segments (template : Text) : List Segment :=
  joinSegments ['{'] ((splitOpening template).map fun piece =>
    joinSegments ['}'] ((splitClosing piece).map spans))

variable [Platform]

/-- The text of one segment. -/
def Segment.render (args : List Value) : Segment → Except FormatError Text
  | .literal text => .ok text
  | .span pattern => expand pattern args

/-- The text of a row of segments, filled from left to right. The first one that has no text gives
the error of the whole row. -/
def render (args : List Value) : List Segment → Except FormatError Text
  | [] => .ok []
  | segment :: rest =>
    match segment.render args with
    | .error e => .error e
    | .ok text =>
      match render args rest with
      | .error e => .error e
      | .ok after => .ok (text ++ after)

@[simp] theorem render_nil (args : List Value) : render args [] = .ok [] := rfl

end Phrasebook.Template
