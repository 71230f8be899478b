import Letterbox.Config.Json
import Letterbox.Config.Toml
import Letterbox.Mailbox.Channel
import Letterbox.Mailbox.Operation
import Letterbox.Main
import Letterbox.Proofs.Json.Reading
import Letterbox.Proofs.Mailbox.Change
import Letterbox.Proofs.Mailbox.Announcements
import Letterbox.Proofs.Mailbox.Consistency
import Letterbox.Proofs.Mailbox.Retrieval
import Letterbox.Proofs.Mailbox.Searching
import Letterbox.Proofs.Zstd.PlainFrame
import Letterbox.Proofs.Mailbox.Constants
import Letterbox.Proofs.Mailbox.Failure
import Letterbox.Proofs.Mailbox.Closing
import Letterbox.Proofs.Mailbox.Ledger
import Letterbox.Proofs.Mailbox.Accounting
import Letterbox.Proofs.Mailbox.Tagging
import Letterbox.Proofs.Mailbox.Views
import Letterbox.Proofs.Mailbox.Damage
import Letterbox.Proofs.Mailbox.Latest
import Letterbox.Proofs.Mailbox.Retention
import Letterbox.Proofs.Mailbox.Remaining
import Letterbox.Proofs.Mailbox.Survivors
import Letterbox.Proofs.Mailbox.Bulk
import Letterbox.Proofs.Mailbox.Matching
import Letterbox.Proofs.Text.AsciiCase
import Letterbox.Proofs.Mailbox.Naming
import Letterbox.Proofs.Mailbox.Retagging
import Letterbox.Proofs.Query.Quoted
import Letterbox.Proofs.Text.Spacing
import Letterbox.Proofs.Mailbox.TagSearch
import Letterbox.Proofs.Mailbox.Paging
import Letterbox.Proofs.Mailbox.TagPruning
import Letterbox.Proofs.Mime.Tree
import Letterbox.Proofs.Envelope.Exposure
import Letterbox.Proofs.Envelope.HeaderEnd
import Letterbox.Proofs.Envelope.Folding
import Letterbox.Proofs.Mailbox.PartRetrieval
import Letterbox.Proofs.Mailbox.PhraseSearch
import Letterbox.Proofs.Time.Date
import Letterbox.Proofs.Query.Written
import Letterbox.Proofs.Mailbox.Conjunction
import Letterbox.Proofs.Mailbox.PieceSearch
import Letterbox.Proofs.Mailbox.FieldCase
import Letterbox.Proofs.Mailbox.Recognition
import Letterbox.Proofs.Mailbox.Previews
import Letterbox.Proofs.Mailbox.Marks
import Letterbox.Proofs.Mailbox.Commuting
import Letterbox.Proofs.Mailbox.Idleness
import Letterbox.Proofs.Envelope.Unsubscribe
import Letterbox.Proofs.Config.TextSettings
import Letterbox.Proofs.Html.Text
import Letterbox.Proofs.Envelope.Preview
import Letterbox.Proofs.Config.Overrides
import Letterbox.Proofs.Mailbox.Decoding
