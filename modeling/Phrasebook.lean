import Phrasebook.ErrorClass
import Phrasebook.Log.Registry
import Phrasebook.Proofs.Locale.NullTexts
import Phrasebook.Proofs.Session.Memoisation
import Phrasebook.Proofs.Template.RoundTrip
import Phrasebook.Session.Start
import Phrasebook.Proofs.Template.SinglePass
import Phrasebook.Proofs.Resources.Reads
import Phrasebook.Proofs.Session.FailedLoads
import Phrasebook.Proofs.Json.Acceptance
import Phrasebook.Proofs.Resources.Malformed
import Phrasebook.Proofs.Resources.Confinement
import Phrasebook.Proofs.Locale.Confinement
import Phrasebook.Proofs.Resources.Isolation
import Phrasebook.Proofs.Locale.SharedCaches
import Phrasebook.Proofs.Locale.ClientTags
import Phrasebook.Proofs.Session.StoreInvariants
import Phrasebook.Proofs.Json.Written
import Phrasebook.Proofs.Text.Utf8
import Phrasebook.Proofs.Locale.PayloadRoundTrip
import Phrasebook.Proofs.Session.Control
import Phrasebook.Proofs.Session.Moments
import Phrasebook.Proofs.Session.Scopes
import Phrasebook.Proofs.Session.Switches
import Phrasebook.Proofs.Session.Routes
import Phrasebook.Proofs.Locale.Languages
import Phrasebook.Proofs.Session.AllTexts
import Phrasebook.Proofs.Template.Surroundings
import Phrasebook.Proofs.Template.Failures
import Phrasebook.Proofs.Log.Emission
import Phrasebook.Proofs.Template.ClosingRuns
import Phrasebook.Proofs.Template.LeftmostSpans
import Phrasebook.Proofs.Template.Operators
import Phrasebook.Proofs.Template.Positions
import Phrasebook.Proofs.Template.Selectors
import Phrasebook.Proofs.Resources.Courses
import Phrasebook.Proofs.Resources.SourcePaths
import Phrasebook.Proofs.Locale.LongCodes
import Phrasebook.Proofs.Locale.Headers
import Phrasebook.Proofs.Session.Direction
import Phrasebook.Proofs.Log.TintedLines
import Phrasebook.Proofs.Log.SharedRecords
