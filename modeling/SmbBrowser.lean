import SmbBrowser.Browse
import SmbBrowser.Command
import SmbBrowser.Command.Arguments
import SmbBrowser.Cursor
import SmbBrowser.Entry
import SmbBrowser.Event
import SmbBrowser.Fault
import SmbBrowser.Format.Entry
import SmbBrowser.Format.Message
import SmbBrowser.Format.Settings
import SmbBrowser.Format.Transcript
import SmbBrowser.Handle
import SmbBrowser.Identifier
import SmbBrowser.Json
import SmbBrowser.Json.Numeral
import SmbBrowser.Json.Reader
import SmbBrowser.Json.Record
import SmbBrowser.Json.Writer
import SmbBrowser.Listing
import SmbBrowser.Listing.Directory
import SmbBrowser.Listing.Host
import SmbBrowser.Listing.Network
import SmbBrowser.Listing.Plan
import SmbBrowser.Listing.Rehearsed
import SmbBrowser.Listing.Search
import SmbBrowser.Listing.Sorts
import SmbBrowser.Locator
import SmbBrowser.Locator.Target
import SmbBrowser.LogFilter
import SmbBrowser.LogFilter.Field
import SmbBrowser.LogFilter.Pattern
import SmbBrowser.LogFilter.Pattern.Reader
import SmbBrowser.Main
import SmbBrowser.Message
import SmbBrowser.Resource
import SmbBrowser.Resource.Stream
import SmbBrowser.ScratchPool
import SmbBrowser.Session
import SmbBrowser.Session.File
import SmbBrowser.Session.Tree
import SmbBrowser.Session.Weight
import SmbBrowser.Settings
import SmbBrowser.Settings.Document
import SmbBrowser.Settings.File
import SmbBrowser.Status
import SmbBrowser.Text.Alphanumeric
import SmbBrowser.Text.Blank
import SmbBrowser.Text.Column
import SmbBrowser.Text.Hex
import SmbBrowser.Text.Printable
import SmbBrowser.Text.Quoted
import SmbBrowser.Text.Ranges
import SmbBrowser.Transcript
import SmbBrowser.Transcript.Playback
import SmbBrowser.Workbench.Buffers
import SmbBrowser.Workbench.Choice
import SmbBrowser.Workbench.Handles
import SmbBrowser.Workbench.Operation
import SmbBrowser.Workbench.Reader
import SmbBrowser.Workbench.Registry
import SmbBrowser.Workbench.Run
import SmbBrowser.Workbench.Script
import SmbBrowser.Proofs.Listing.Stakes
import SmbBrowser.Proofs.Cursor.Stakes
import SmbBrowser.Proofs.Resource.Stakes
import SmbBrowser.Proofs.Browse
import SmbBrowser.Proofs.Session.Keepers
import SmbBrowser.Proofs.Session.LiveTree
import SmbBrowser.Proofs.Session.Orderly
import SmbBrowser.Proofs.Workbench.Account
import SmbBrowser.Proofs.Workbench.LiveRequests
import SmbBrowser.Proofs.Cursor.Course
import SmbBrowser.Proofs.Cursor.Lifetime
import SmbBrowser.Proofs.Session.Leaks
import SmbBrowser.Proofs.Workbench.References
import SmbBrowser.Proofs.Cursor.Drain
import SmbBrowser.Proofs.Session.Standing
import SmbBrowser.Proofs.Session.Talk
import SmbBrowser.Proofs.Listing.Complete
import SmbBrowser.Proofs.Listing.Search
import SmbBrowser.Proofs.Listing.Directory
import SmbBrowser.Proofs.Listing.Network
import SmbBrowser.Proofs.Listing.Alarms
import SmbBrowser.Proofs.Session.Passages
import SmbBrowser.Proofs.Session.Stroke
import SmbBrowser.Proofs.Session.Ranked
import SmbBrowser.Proofs.Session.Validity
import SmbBrowser.Proofs.Workbench.Moments
import SmbBrowser.Proofs.Session.Chronicle
import SmbBrowser.Proofs.Session.Tending
import SmbBrowser.Proofs.Workbench.Lifecycle
import SmbBrowser.Proofs.Session.Loss
import SmbBrowser.Proofs.Workbench.Losses
import SmbBrowser.Proofs.Session.Closing
import SmbBrowser.Proofs.Cursor.Deeds
import SmbBrowser.Proofs.Listing.Succession
import SmbBrowser.Proofs.Listing.Adoption
import SmbBrowser.Proofs.Listing.Closing
import SmbBrowser.Proofs.Workbench.Closing
import SmbBrowser.Proofs.Locator.Segments
import SmbBrowser.Proofs.Locator.Spelling
import SmbBrowser.Proofs.Cursor.Likeness
import SmbBrowser.Proofs.Resource.Grounded
import SmbBrowser.Proofs.Resource.Refinement
import SmbBrowser.Proofs.Workbench.Grounded
import SmbBrowser.Proofs.Listing.Likeness
import SmbBrowser.Proofs.Session.Twins
import SmbBrowser.Proofs.Session.Grounded
import SmbBrowser.Proofs.Listing.Endings
import SmbBrowser.Proofs.ScratchPool
import SmbBrowser.Proofs.Workbench.Buffers
import SmbBrowser.Proofs.Workbench.Script
import SmbBrowser.Proofs.Handle
import SmbBrowser.Proofs.Session.Cleanup
import SmbBrowser.Proofs.Resource.Cleanup
import SmbBrowser.Proofs.Format.Transcript
import SmbBrowser.Proofs.Cursor.Laziness
import SmbBrowser.Proofs.Listing.Termination
import SmbBrowser.Proofs.Listing.Progress
import SmbBrowser.Proofs.Resource.Refusal
import SmbBrowser.Proofs.Listing.Orphans
import SmbBrowser.Proofs.Resource.Disclosure
import SmbBrowser.Proofs.Listing.Shares
import SmbBrowser.Proofs.Workbench.Lending
import SmbBrowser.Proofs.Settings.Render
