import SiteWalk.Json.Reader
import SiteWalk.Json.Printer
import SiteWalk.Extract.Readable
import SiteWalk.Extract.Selector
import SiteWalk.Extract.RawDump
import SiteWalk.Unicode.Category
import SiteWalk.Unicode.Combining
import SiteWalk.Unicode.Direction
import SiteWalk.Unicode.Joining
import SiteWalk.Unicode.HostMapping
import SiteWalk.Unicode.Folding
import SiteWalk.Unicode.Property
import SiteWalk.Url.Domain
import SiteWalk.Url.Parse
import SiteWalk.Link.Category
import SiteWalk.Link.Href
import SiteWalk.Link.Resolve
import SiteWalk.Pattern.Expr
import SiteWalk.Pattern.Basic
import SiteWalk.TextMap
import SiteWalk.Text.Sha256
import SiteWalk.Datum.Reading
import SiteWalk.Settings.Form
import SiteWalk.Profile
import SiteWalk.Toml.Reader
import SiteWalk.Crawl.Traversal
import SiteWalk.Crawl.Form
import SiteWalk.Batch.Basic
import SiteWalk.Batch.Coordinator
import SiteWalk.Batch.Memory
import SiteWalk.Batch.Form
import SiteWalk.Cli.Command
import SiteWalk.Cli.Manual
import SiteWalk.Main
import SiteWalk.Output.Format
import SiteWalk.Field.Population
import SiteWalk.Batch.Relational
import SiteWalk.Proofs.Crawl.Visit
import SiteWalk.Proofs.Crawl.Walk
import SiteWalk.Proofs.Crawl.Books
import SiteWalk.Proofs.Crawl.Provenance
import SiteWalk.Proofs.Batch.Effect
import SiteWalk.Proofs.Batch.Replay
import SiteWalk.Proofs.Batch.Runs
import SiteWalk.Proofs.Crawl.Coverage
import SiteWalk.Proofs.Crawl.Depth
import SiteWalk.Proofs.Batch.Overlap
import SiteWalk.Proofs.Batch.Without
import SiteWalk.Proofs.Batch.Follow
import SiteWalk.Proofs.Batch.CallOff
import SiteWalk.Proofs.Crawl.CutShort
import SiteWalk.Proofs.Crawl.Moment
import SiteWalk.Proofs.Batch.Interrupt
import SiteWalk.Proofs.Batch.Tampered
import SiteWalk.Proofs.Batch.Drained
import SiteWalk.Proofs.Link.Scope
import SiteWalk.Proofs.Crawl.Outage
import SiteWalk.Proofs.Batch.Grounded
import SiteWalk.Proofs.Crawl.Flavors
import SiteWalk.Proofs.Batch.Sights
import SiteWalk.Proofs.Json.Lexed
import SiteWalk.Proofs.Json.Written
import SiteWalk.Proofs.Crawl.ReadBack
import SiteWalk.Proofs.Batch.OnFile
import SiteWalk.Proofs.Batch.Conserved
import SiteWalk.Proofs.Crawl.Pace
import SiteWalk.Proofs.Batch.Pace
import SiteWalk.Proofs.Batch.Lifecycle
import SiteWalk.Proofs.Field.Deferred
import SiteWalk.Proofs.Batch.InFull
import SiteWalk.Proofs.Extract.Identifier
import SiteWalk.Proofs.Html.Distinct
import SiteWalk.Proofs.Html.Sound
import SiteWalk.Proofs.Html.Rules
import SiteWalk.Proofs.Extract.Removed
import SiteWalk.Proofs.Extract.Best
import SiteWalk.Proofs.Extract.Clutter
import SiteWalk.Proofs.Crawl.Contract
import SiteWalk.Proofs.Text.Offset
import SiteWalk.Proofs.Link.Body
import SiteWalk.Proofs.Link.Attribute
import SiteWalk.Proofs.Extract.Grammar
import SiteWalk.Proofs.Link.Listed
import SiteWalk.Proofs.Text.Pieces
import SiteWalk.Proofs.Settings.Header
import SiteWalk.Proofs.Batch.Excluded
import SiteWalk.Proofs.Field.Refused
import SiteWalk.Proofs.Cli.Collected
import SiteWalk.Proofs.Text.Digest
import SiteWalk.Proofs.Settings.Canonical
import SiteWalk.Proofs.Batch.Mismatch
import SiteWalk.Proofs.Json.LaidOut
import SiteWalk.Proofs.Output.ReadBack
import SiteWalk.Proofs.Html.Unmarked
import SiteWalk.Proofs.Extract.Chosen
import SiteWalk.Proofs.Output.Fenced
import SiteWalk.Proofs.Extract.NormalForm
import SiteWalk.Proofs.Batch.Stack
