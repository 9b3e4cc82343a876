import Hypeterm.Http.Capability
import Hypeterm.Http.Departures
import Hypeterm.Http.MirrorRevocation
import Hypeterm.Relay.FullGrace
import Hypeterm.Relay.Takeover
import Hypeterm.Settings.Audit
import Hypeterm.Settings.Publication
import Hypeterm.Relay.Reopening
import Hypeterm.Http.OwnershipLimits
import Hypeterm.Relay.Attendance
import Hypeterm.Android.Answers
import Hypeterm.Android.Contiguity
import Hypeterm.Publisher.Convergence
import Hypeterm.Publisher.HostingLimit
import Hypeterm.Publisher.Offsets
import Hypeterm.Publisher.Orphans
import Hypeterm.Publisher.Replies
import Hypeterm.Publisher.Retries
import Hypeterm.Publisher.StandDown
import Hypeterm.Http.OneBody
import Hypeterm.Android.Writing
import Hypeterm.Android.Reading
import Hypeterm.App.SigningKeys
import Hypeterm.App.StorageQuota
import Hypeterm.App.RateLimiter
import Hypeterm.Term.PairedRuns
import Hypeterm.Term.Revision
import Hypeterm.Term.MarkTargetRuns
import Hypeterm.Relay.IdleSubscriber
import Hypeterm.Relay.Declines
import Hypeterm.Relay.AckLoop
import Hypeterm.Relay.DurableWait
import Hypeterm.Relay.Eviction
import Hypeterm.Http.Tickets
import Hypeterm.Http.Transport
import Hypeterm.Relay.Metadata
import Hypeterm.Http.Listing
import Hypeterm.Http.Challenges
import Hypeterm.Publisher.Window
import Hypeterm.Publisher.Closing
import Hypeterm.Publisher.Ipc
import Hypeterm.Publisher.Deliveries
import Hypeterm.Publisher.Admission
import Hypeterm.Android.Notifier
import Hypeterm.Android.PasteDelivery
import Hypeterm.Android.Ordering
import Hypeterm.Android.Unacknowledged
import Hypeterm.Android.Url
import Hypeterm.Term.CursorReport
import Hypeterm.Term.SavedCursor
import Hypeterm.Term.Rendition
import Hypeterm.Term.PrintedText
import Hypeterm.Term.Selection
import Hypeterm.Relay.RingSuffix
import Hypeterm.Term.Accounting
import Hypeterm.Android.Sanitize
import Hypeterm.Android.SigningInput
