import Flipbook.AtlasService
import Flipbook.Binary64.Reading
import Flipbook.Binary64.Shortest
import Flipbook.CommandLine.Run
import Flipbook.CommandLine.SettingsFile
import Flipbook.Loading
import Flipbook.Log.Csv
import Flipbook.Log.Sinks
import Flipbook.Main
import Flipbook.Metadata
import Flipbook.Page.Definitions
import Flipbook.Page.Selection
import Flipbook.PageCache.Settle
import Flipbook.RollingHash
import Flipbook.Settings.Validation
import Flipbook.Proofs.PageCache.Moves
import Flipbook.Proofs.PageCache.Trace
import Flipbook.Proofs.PageCache.Builds
import Flipbook.Proofs.PageCache.Progress
import Flipbook.Proofs.PageCache.Pages
import Flipbook.Proofs.PageCache.SingleFlight
import Flipbook.Proofs.PageCache.Closing
import Flipbook.Proofs.PageCache.Schedule
import Flipbook.Proofs.Frame.Name
import Flipbook.Proofs.Frame.Groups
import Flipbook.Proofs.PageCache.Promises
import Flipbook.Proofs.Definition.Grammar
import Flipbook.Proofs.Definition.Reading
import Flipbook.Proofs.Definition.Spelling
import Flipbook.Proofs.Definition.Offsets
import Flipbook.Proofs.Definition.Recovery
import Flipbook.Proofs.Page.Calls
import Flipbook.Proofs.PageCache.StrayLoads
import Flipbook.Proofs.PageCache.Delay
import Flipbook.Proofs.PageCache.FailurePolicy
import Flipbook.Proofs.RollingHash
import Flipbook.Proofs.Frame.Sorting
import Flipbook.Proofs.PageCache.Liveness
import Flipbook.Proofs.Page.FirstFailure
import Flipbook.Proofs.Definition.Denotation
import Flipbook.Proofs.PageCache.Shutdown
import Flipbook.Proofs.AtlasService.Sharing
import Flipbook.Proofs.AtlasService.Registry
import Flipbook.Proofs.AtlasService.Reordering
import Flipbook.Proofs.AtlasService.Removal
import Flipbook.Proofs.Report
import Flipbook.Proofs.Text.Numeral
import Flipbook.Proofs.Settings.Readings
import Flipbook.Proofs.Settings.Assignments
import Flipbook.Proofs.Settings.Profiles
import Flipbook.Proofs.Keyed
import Flipbook.Proofs.CommandLine.Selector
import Flipbook.Proofs.CommandLine.Arguments
import Flipbook.Proofs.CommandLine.Session
import Flipbook.Proofs.PageCache.Settling
import Flipbook.Proofs.PageCache.Sequence
import Flipbook.Proofs.AtlasService.Awaiting
import Flipbook.Proofs.CommandLine.Building
import Flipbook.Proofs.CommandLine.Printing
import Flipbook.Proofs.CommandLine.Run
import Flipbook.Proofs.CommandLine.Startup
import Flipbook.Proofs.Frame.Insertion
import Flipbook.Proofs.Page.Resolution
import Flipbook.Proofs.Page.Ranges
import Flipbook.Proofs.Page.Composition
import Flipbook.Proofs.Definition.Continuation
import Flipbook.Proofs.Frame.Padding
import Flipbook.Proofs.Definition.Joining
import Flipbook.Proofs.Definition.Cutting
import Flipbook.Proofs.Definition.Spacing
import Flipbook.Proofs.Definition.Expansion
import Flipbook.Proofs.Definition.Lexemes
import Flipbook.Proofs.Definition.Revision
import Flipbook.Proofs.RollingHash.Continuation
import Flipbook.Proofs.Log.Csv
import Flipbook.Proofs.Log.Coloring
