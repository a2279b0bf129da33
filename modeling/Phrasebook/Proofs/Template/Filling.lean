import Phrasebook.Proofs.Template.Scanning

/-!
# Filling while scanning

A template is filled by three loops inside each other: over the pieces between doubled opening
braces, over the fragments between the doubled closing braces of a piece, and over the braces of a
fragment, where each span is filled as soon as it is found. None of them looks at what it has put
in, so they come to the same as finding all segments first and filling the row of them afterwards
(`format_eq_render`). An error ends all three loops, and in a row it ends the filling at the same
span.
-/

namespace Phrasebook.Template

/-! ## One fragment -/

/-- An opening brace with a closing one directly behind it is literal, and the scan goes on at the
closing one. -/
theorem atoms_spans_empty_braces (behind : Text) :
    atoms (spans ('{' :: '}' :: behind)) = .char '{' :: atoms (spans ('}' :: behind)) := by
  simp [spans, scanSpans, literalAtoms]

variable [Platform]

theorem interpolate_eq_renderAtoms (fragment : Text) (args : List Value) :
    interpolate fragment args = renderAtoms args (atoms (spans fragment)) := by
  -- The induction follows the loop: each turn starts again behind the span or the brace it found.
  fun_induction interpolate fragment args with
  | case1 fragment hopening =>
      have hnone := Text.cutAt?_eq_none_iff.1 hopening
      have hatoms := atoms_spans_append_of_no_opening hnone []
      rw [List.append_nil] at hatoms
      rw [hatoms, renderAtoms_literalAtoms_append]
      exact congrArg Except.ok (List.append_nil fragment).symm
  | case2 fragment before opened hopening hclosing =>
      obtain ⟨hbefore, rfl⟩ := Text.cutAt?_eq_some_iff.1 hopening
      have hnone : '}' ∉ '{' :: opened := by
        simpa using Text.cutAt?_eq_none_iff.1 hclosing
      rw [atoms_spans_append_of_no_opening hbefore, atoms_spans_of_no_closing hnone,
        ← literalAtoms_append, ← List.append_nil (literalAtoms _), renderAtoms_literalAtoms_append]
      exact congrArg Except.ok (List.append_nil _).symm
  | case3 fragment before opened hopening pattern behind hclosing hempty ih =>
      obtain ⟨hbefore, rfl⟩ := Text.cutAt?_eq_some_iff.1 hopening
      obtain rfl := List.isEmpty_iff.1 hempty
      obtain ⟨-, rfl⟩ := Text.cutAt?_eq_some_iff.1 hclosing
      rw [List.nil_append] at ih
      rw [atoms_spans_append_of_no_opening hbefore, List.nil_append, atoms_spans_empty_braces,
        renderAtoms_literalAtoms_append, renderAtoms, ih]
      cases renderAtoms args (atoms (spans ('}' :: behind))) <;> rfl
  | case4 fragment before opened hopening pattern behind hclosing hempty e he =>
      obtain ⟨hbefore, rfl⟩ := Text.cutAt?_eq_some_iff.1 hopening
      obtain ⟨hpattern, rfl⟩ := Text.cutAt?_eq_some_iff.1 hclosing
      have hne : pattern ≠ [] := fun h => hempty (List.isEmpty_iff.2 h)
      rw [atoms_spans_append_of_no_opening hbefore, spans_span hne hpattern, atoms_span_cons,
        renderAtoms_literalAtoms_append, renderAtoms, he]
      rfl
  | case5 fragment before opened hopening pattern behind hclosing hempty text htext ih =>
      obtain ⟨hbefore, rfl⟩ := Text.cutAt?_eq_some_iff.1 hopening
      obtain ⟨hpattern, rfl⟩ := Text.cutAt?_eq_some_iff.1 hclosing
      have hne : pattern ≠ [] := fun h => hempty (List.isEmpty_iff.2 h)
      rw [atoms_spans_append_of_no_opening hbefore, spans_span hne hpattern, atoms_span_cons,
        renderAtoms_literalAtoms_append, renderAtoms, htext, ih]
      cases renderAtoms args (atoms (spans behind)) <;> simp [Except.map]

/-- Filling the spans of a fragment as they are found is filling its segments. -/
theorem interpolate_eq_render (fragment : Text) (args : List Value) :
    interpolate fragment args = render args (spans fragment) := by
  rw [interpolate_eq_renderAtoms, render_eq_renderAtoms]

/-! ## Rows of fragments and pieces -/

theorem render_append (args : List Value) (a b : List Segment) :
    render args (a ++ b) = (render args a).bind fun text => (render args b).map (text ++ ·) := by
  induction a with
  | nil => cases h : render args b <;> simp [h, Except.bind, Except.map]
  | cons segment rest ih =>
      rw [List.cons_append, render, render, ih]
      cases segment.render args with
      | error e => rfl
      | ok text =>
          cases render args rest with
          | error e => rfl
          | ok after => cases render args b <;> simp [Except.bind, Except.map]

theorem render_joinSegments (args : List Value) (separator : Text) (rows : List (List Segment)) :
    render args (joinSegments separator rows) =
      (rows.mapM (render args)).map (Text.join separator) := by
  induction rows with
  | nil => rfl
  | cons row rest ih =>
      rw [List.mapM_cons]
      cases rest with
      | nil =>
          rw [joinSegments]
          cases render args row <;> rfl
      | cons next rest =>
          rw [joinSegments, render_append]
          · rw [render, ih, List.mapM_cons, Segment.render]
            cases render args row with
            | error e => rfl
            | ok text =>
                cases render args next with
                | error e => rfl
                | ok second =>
                    cases rest.mapM (render args) with
                    | error e => rfl
                    | ok others =>
                        simp [Except.bind, Except.map, bind, pure, Except.pure,
                          Text.join_cons_cons]
          · exact List.cons_ne_nil next rest

theorem fillPiece_eq_render (piece : Text) (args : List Value) :
    fillPiece piece args = render args (joinSegments ['}'] ((splitClosing piece).map spans)) := by
  simp only [fillPiece, interpolate_eq_render]
  rw [render_joinSegments, List.mapM_map]
  rfl

/-- Filling a template is filling its segments from left to right. -/
theorem format_eq_render (template : Text) (args : List Value) :
    format template args = render args (segments template) := by
  simp only [format, fillPiece_eq_render]
  rw [segments, render_joinSegments, List.mapM_map]
  rfl

theorem format_eq_renderAtoms (template : Text) (args : List Value) :
    format template args = renderAtoms args (parse template) := by
  rw [format_eq_render, render_eq_renderAtoms, parse]

end Phrasebook.Template
