import Phrasebook.Log.Conversion
import Phrasebook.Log.Record
import Phrasebook.Text.Digit
import Phrasebook.Text.Word

/-!
# Layouts of log lines

A layout is text with directives for the fields of a record; two percent signs stand for
one. Directives are filled from left to right, and the first one that cannot be filled is the
error of the whole line. A directive without a name takes the whole record if it is the
first one, and finds nothing left otherwise.
-/

namespace Phrasebook.Log

/-- A part of a layout. -/
inductive Piece
  | text (text : Text)
  | directive (directive : Directive)
  /-- The name of a field that is never closed. -/
  | unclosedName
deriving DecidableEq

/-- The pieces of what is left of a layout of length `size`. -/
def piecesFrom (size : Nat) : Text → List Piece
  | [] => []
  | c :: rest =>
    if c ≠ '%' then .text [c] :: piecesFrom size rest
    else
      match rest with
      | '%' :: after => .text ['%'] :: piecesFrom size after
      | '(' :: named =>
        match _h : takeName 0 named with
        | none => [.unclosedName]
        | some (name, tail) =>
          let found := takeDirective size (some name) tail
          .directive found.1 :: piecesFrom size found.2
      | rest =>
        let found := takeDirective size none rest
        .directive found.1 :: piecesFrom size found.2
termination_by s => s.length
decreasing_by
  · simp
  · simp only [List.length_cons]
    omega
  · have h₁ := takeDirective_length size (some name) tail
    have h₂ := congrArg List.length (takeName_append _h)
    simp only [List.length_append, List.length_cons] at h₂ ⊢
    omega
  · have := takeDirective_length size none rest
    simp only [List.length_cons]
    omega

/-- The pieces of a layout. -/
def pieces (layout : Text) : List Piece :=
  piecesFrom layout.length layout

/-- The text of pieces one after the other. `whole` is the value for a directive without a
name, if one is left for it. -/
def fillPieces (r : Record) (whole : Option Value) :
    List Piece → Except LayoutError Text
  | [] => .ok []
  | .text text :: rest => do
    let after ← fillPieces r whole rest
    return text ++ after
  | .unclosedName :: _ => .error .incompleteName
  | .directive d :: rest => do
    let value ←
      match d.field with
      | none => pure whole
      | some name =>
        match r.field? name with
        | none => throw (.unknownField name)
        | some value => pure (some value)
    let text ← d.fill value
    let after ← fillPieces r none rest
    return text ++ after

/-- A record in a layout. -/
def lineText (layout : Text) (r : Record) : Except LayoutError Text :=
  fillPieces r (some r.whole) (pieces layout)

/-- Whether a layout shows the time. -/
def showsTime (layout : Text) : Bool :=
  Text.holds ("%(".toList ++ timeField ++ [')']) layout

/-- The letters of the conversions that a layout is checked for, in either case and with the
letters that have one of them as their other case. -/
def conversions : Text := "diouxefgcrsa%".toList ++ ['İ', 'ı', 'ſ']

/-- A width or precision: digits of any script, or a star. -/
def dropSize? : Text → Option Text
  | '*' :: rest => some rest
  | s =>
    match s.takeWhile fun c => (Text.digit? c).isSome with
    | [] => none
    | _ => some (s.dropWhile fun c => (Text.digit? c).isSome)

/-- Drop a point and a precision. -/
def dropPrecision (s : Text) : Text :=
  match s with
  | '.' :: rest => (dropSize? rest).getD s
  | _ => s

/-- Whether a text starts with a directive. -/
def startsDirective : Text → Bool
  | '%' :: '(' :: rest =>
    let name := rest.takeWhile Text.isWord
    match rest.dropWhile Text.isWord with
    | ')' :: rest =>
      let rest := rest.dropWhile isFlag
      match dropPrecision ((dropSize? rest).getD rest) with
      | conversion :: _ => !name.isEmpty && (Text.asciiLower [conversion]).all conversions.contains
      | [] => false
    | _ => false
  | _ => false

/-- Whether a layout has a directive anywhere. -/
def hasDirective : Text → Bool
  | [] => false
  | c :: rest => startsDirective (c :: rest) || hasDirective rest

end Phrasebook.Log
