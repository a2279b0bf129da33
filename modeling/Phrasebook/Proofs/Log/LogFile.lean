import Phrasebook.Log.Registry
import Phrasebook.Proofs.Files.Moving
import Phrasebook.Proofs.Paths

/-!
# The log file

The log file of a day is named by digits, so it lies directly in the directory that the set-up is
told. It is there once a handler for it has been added, unless that directory lies above the
working directory, where files are out of sight.
-/

namespace Phrasebook.Log

/-! ## Its name -/

theorem pieces_directive (m : Moment) {manner : Manner} {letter : Char} {rest after : Text}
    (h : TimeFormat.takeManner rest = (manner, letter :: after)) :
    TimeFormat.pieces m ('%' :: rest) = m.directive manner letter ++ TimeFormat.pieces m after := by
  rw [TimeFormat.pieces.eq_def]
  simp only [ne_eq, not_true_eq_false, if_false]
  split
  · rename_i hnil
    rw [h] at hnil
    cases hnil
  · rename_i hcons
    rw [h] at hcons
    cases hcons
    rfl

theorem pieces_day (m : Moment) : TimeFormat.pieces m "%Y%m%d".toList =
    [.upto 4 '0' (Text.ofNat m.year), .upto 2 '0' (Text.ofNat m.month),
      .upto 2 '0' (Text.ofNat m.day)] := by
  have hyear : TimeFormat.takeManner "Y%m%d".toList = (.plain, 'Y' :: "%m%d".toList) := rfl
  have hmonth : TimeFormat.takeManner "m%d".toList = (.plain, 'm' :: "%d".toList) := rfl
  have hday : TimeFormat.takeManner "d".toList = (.plain, ['d']) := rfl
  rw [show "%Y%m%d".toList = '%' :: "Y%m%d".toList from rfl, pieces_directive m hyear,
    show "%m%d".toList = '%' :: "m%d".toList from rfl, pieces_directive m hmonth,
    show "%d".toList = '%' :: "d".toList from rfl, pieces_directive m hday, TimeFormat.pieces]
  rfl

theorem slash_not_mem_upto (width n : Nat) :
    '/' ∉ (Filled.upto width '0' (Text.ofNat n)).text := by
  intro h
  rcases List.mem_append.1 h with h | h
  · cases List.eq_of_mem_replicate h
  · exact absurd (Nat.isDigit_of_mem_toDigits (by decide) (by decide) h) (by decide)

theorem slash_not_mem_day (m : Moment) : '/' ∉ m.text "%Y%m%d".toList := by
  unfold Moment.text
  simp only [pieces_day]
  split
  · simp [slash_not_mem_upto]
  · simp

namespace Registry

theorem isPart_of_day {day : Text} (h : '/' ∉ day) :
    Path.IsPart ("localekit_".toList ++ day ++ ".log".toList) := by
  refine ⟨?_, ?_, ?_⟩ <;> simp [h]

theorem isPart_dayFile (now : Moment) : Path.IsPart (dayFile now) :=
  isPart_of_day (slash_not_mem_day now)

theorem head?_dayFile (now : Moment) : (dayFile now).head? ≠ some '/' :=
  fun h => (isPart_dayFile now).1 (List.mem_of_head? h)

theorem parts_logPath (now : Moment) (directory : Text) :
    Path.parts (logPath now directory) = Path.parts directory ++ [dayFile now] :=
  (Path.parts_join _ (head?_dayFile now)).trans (by
    rw [Path.parts_normal, Path.parts_of_isPart (isPart_dayFile now)])

theorem start_logPath (now : Moment) (directory : Text) :
    Tree.start (logPath now directory) = Tree.start directory := by
  rw [Tree.start, Tree.start, logPath]
  congr 1
  exact congrArg (· = true) (Path.root_join_normal_isEmpty directory (head?_dayFile now))

/-! ## When it is there -/

variable {files opened : Tree Text} {path : Text}

theorem content_eq_notFound {missing : Text} (h : files.content path = .error (.notFound missing)) :
    files.locate path = .error .missing := by
  unfold Tree.content at h
  split at h
  · rename_i obstacle hlocate
    cases obstacle <;> simp_all [Tree.Obstacle.toError]
  · cases h
  · split at h <;> cases h

/-- A file that was opened in a directory of the tree is there. -/
theorem exists_content_of_openFile {front directory : List Text} {name : Text}
    (h : openFile files path = .ok opened) (hparts : Path.parts path = front ++ [name])
    (hfront : files.walk (Tree.start path) front = .ok (.inside directory)) :
    ∃ content, opened.content path = .ok content := by
  unfold openFile at h
  split at h
  · rename_i content hcontent
    cases h
    exact ⟨content, hcontent⟩
  · rename_i missing hmissing
    cases h
    exact ⟨[], Tree.content_write_of_missing hparts hfront (content_eq_notFound hmissing) []⟩
  · cases h

/-- The log file is there once a handler for it has been added. -/
theorem exists_logFile_of_addFile {s t : Registry} {directory : Text}
    (h : s.addFile directory = (none, t)) (hinside : Tree.place directory ≠ .outside) :
    ∃ content, t.files.fileAt? (Tree.place (logPath s.now.moment directory)) = some content := by
  unfold addFile at h
  split at h
  · cases h
  · rename_i made hmade
    simp only at h
    split at h
    · cases h
    · rename_i opened hopened
      cases h
      obtain ⟨parts, hlocate⟩ := Tree.locate_makeDirectory hmade
        fun houtside => hinside (Tree.place_of_locate houtside)
      have hwalk := Tree.walk_of_locate hlocate
      rw [← start_logPath s.now.moment directory] at hwalk
      obtain ⟨content, hcontent⟩ := exists_content_of_openFile hopened
        (parts_logPath s.now.moment directory) hwalk
      exact ⟨content, Tree.fileAt?_of_content hcontent⟩

end Registry

end Phrasebook.Log
