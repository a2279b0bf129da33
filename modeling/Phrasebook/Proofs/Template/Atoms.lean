import Phrasebook.Template.Segment

/-!
# Templates as rows of atoms

The same template can be cut into segments in more than one way: two literals in a row say
what one says, and an empty literal says nothing. Atoms leave no such choice, since each is one
literal character or one whole span. Filling depends on the atoms alone, so two rows with the
same atoms are filled alike from every argument list, errors included.

The laws at the end say how the atoms of joined rows change when text is put before the first
row. The laws of the two brace scanners are built on them.
-/

namespace Phrasebook.Template

/-- A literal character or a whole span. -/
inductive Atom
  | char (c : Char)
  | span (pattern : Text)
deriving DecidableEq

/-- The atoms of literal text. -/
def literalAtoms (text : Text) : List Atom :=
  text.map .char

@[simp] theorem literalAtoms_cons (c : Char) (text : Text) :
    literalAtoms (c :: text) = .char c :: literalAtoms text := rfl

@[simp] theorem literalAtoms_append (a b : Text) :
    literalAtoms (a ++ b) = literalAtoms a ++ literalAtoms b :=
  List.map_append

@[simp] theorem literalAtoms_replicate (n : Nat) (c : Char) :
    literalAtoms (List.replicate n c) = List.replicate n (.char c) :=
  List.map_replicate

/-- The atoms of a row of segments. -/
def atoms : List Segment → List Atom
  | [] => []
  | .literal text :: rest => literalAtoms text ++ atoms rest
  | .span pattern :: rest => .span pattern :: atoms rest

@[simp] theorem atoms_literal_cons (text : Text) (rest : List Segment) :
    atoms (.literal text :: rest) = literalAtoms text ++ atoms rest := rfl

@[simp] theorem atoms_span_cons (pattern : Text) (rest : List Segment) :
    atoms (.span pattern :: rest) = .span pattern :: atoms rest := rfl

@[simp] theorem atoms_append (a b : List Segment) : atoms (a ++ b) = atoms a ++ atoms b := by
  induction a with
  | nil => rfl
  | cons segment rest ih =>
      cases segment with
      | literal text => simp only [List.cons_append, atoms_literal_cons, ih, List.append_assoc]
      | span pattern => simp only [List.cons_append, atoms_span_cons, ih]

@[simp] theorem atoms_prependText (text : Text) (row : List Segment) :
    atoms (prependText text row) = literalAtoms text ++ atoms row := by
  unfold prependText
  split
  · rw [atoms_literal_cons, atoms_literal_cons, literalAtoms_append, List.append_assoc]
  · rfl

/-! ## Filling -/

section

variable [Platform]

/-- The text of a row of atoms. -/
def renderAtoms (args : List Value) : List Atom → Except FormatError Text
  | [] => .ok []
  | .char c :: rest => (renderAtoms args rest).map (c :: ·)
  | .span pattern :: rest =>
    match expand pattern args with
    | .error e => .error e
    | .ok text => (renderAtoms args rest).map (text ++ ·)

theorem renderAtoms_literalAtoms_append (args : List Value) (text : Text) (row : List Atom) :
    renderAtoms args (literalAtoms text ++ row) = (renderAtoms args row).map (text ++ ·) := by
  induction text with
  | nil =>
      change renderAtoms args row = (renderAtoms args row).map id
      rw [Except.map_id]
      rfl
  | cons c text ih =>
      change (renderAtoms args (literalAtoms text ++ row)).map (c :: ·) = _
      rw [ih]
      cases renderAtoms args row <;> rfl

/-- Filling a row of segments depends on its atoms alone. -/
theorem render_eq_renderAtoms (args : List Value) (row : List Segment) :
    render args row = renderAtoms args (atoms row) := by
  induction row with
  | nil => rfl
  | cons segment rest ih =>
      cases segment with
      | literal text =>
          rw [atoms_literal_cons, renderAtoms_literalAtoms_append, ← ih, render, Segment.render]
          cases render args rest <;> rfl
      | span pattern =>
          rw [atoms_span_cons, renderAtoms, ← ih, render, Segment.render]
          cases expand pattern args with
          | error e => rfl
          | ok text => cases render args rest <;> rfl

end

/-! ## Joined rows -/

theorem atoms_joinSegments_cons (separator : Text) (row : List Segment)
    {rows : List (List Segment)} (h : rows ≠ []) :
    atoms (joinSegments separator (row :: rows)) =
      atoms row ++ literalAtoms separator ++ atoms (joinSegments separator rows) := by
  cases rows with
  | nil => exact absurd rfl h
  | cons next rows =>
      rw [joinSegments, atoms_append, atoms_literal_cons, List.append_assoc]
      simp

/-- What is put before the first of some joined rows comes before all of them. -/
theorem atoms_joinSegments_of_first {separator : Text} {first row : List Segment}
    {before : List Atom} (h : atoms first = before ++ atoms row) (rows : List (List Segment)) :
    atoms (joinSegments separator (first :: rows)) =
      before ++ atoms (joinSegments separator (row :: rows)) := by
  cases rows with
  | nil => exact h
  | cons next rows =>
      have hne : next :: rows ≠ [] := List.cons_ne_nil next rows
      rw [atoms_joinSegments_cons separator first hne, atoms_joinSegments_cons separator row hne, h]
      simp only [List.append_assoc]

end Phrasebook.Template
