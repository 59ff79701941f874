import PageRouter.Address.Basic
import PageRouter.Address.Host
import PageRouter.Address.Link
import PageRouter.Address.Name
import PageRouter.Address.Punycode
import PageRouter.Click
import PageRouter.CodePoint.Awaited
import PageRouter.CodePoint.Combining
import PageRouter.CodePoint.Decomposition
import PageRouter.CodePoint.Direction
import PageRouter.CodePoint.Folding
import PageRouter.CodePoint.Joining
import PageRouter.CodePoint.Mark
import PageRouter.CodePoint.Replacement
import PageRouter.CodePoint.Table
import PageRouter.CodePoint.Unassigned
import PageRouter.Config
import PageRouter.Element.Basic
import PageRouter.Element.Cache
import PageRouter.Element.Document
import PageRouter.Error
import PageRouter.History
import PageRouter.Match
import PageRouter.Page.Basic
import PageRouter.Page.Command
import PageRouter.Page.Configured
import PageRouter.Page.Describe
import PageRouter.Page.Mounting
import PageRouter.Page.Navigation
import PageRouter.Page.Refresh
import PageRouter.Page.Run
import PageRouter.Page.Telling
import PageRouter.Params
import PageRouter.Path
import PageRouter.Pattern.Compile
import PageRouter.Pattern.Fill
import PageRouter.Pattern.Reading
import PageRouter.Pattern.Shape
import PageRouter.Pattern.Token
import PageRouter.Query
import PageRouter.Reaction
import PageRouter.Registry
import PageRouter.Route
import PageRouter.Signal
import PageRouter.Signal.Board
import PageRouter.Text.Basic
import PageRouter.Text.Blank
import PageRouter.Text.Composed
import PageRouter.Text.Number
import PageRouter.Text.Percent
import PageRouter.Text.Quoted
import PageRouter.Text.Utf8
import PageRouter.Toml.Reader
import PageRouter.Toml.Scalar
import PageRouter.Toml.Value
import PageRouter.Proofs.Forest
import PageRouter.Proofs.Leads
import PageRouter.Proofs.Sound
import PageRouter.Proofs.Scripts
import PageRouter.Proofs.Hooks
import PageRouter.Proofs.Commands
import PageRouter.Proofs.Deliveries
import PageRouter.Proofs.Upkeep
import PageRouter.Proofs.Changes
import PageRouter.Proofs.Refreshing
import PageRouter.Proofs.Growth
import PageRouter.Proofs.Nested
import PageRouter.Proofs.Queue
import PageRouter.Proofs.Quiet
import PageRouter.Proofs.Tops
import PageRouter.Proofs.Columns
import PageRouter.Proofs.LeftmostFirst
import PageRouter.Proofs.Lookup
import PageRouter.Proofs.Readings
import PageRouter.Proofs.Spelling
import PageRouter.Proofs.Captures
import PageRouter.Proofs.Chains
import PageRouter.Proofs.Escapes
import PageRouter.Proofs.Filling
import PageRouter.Proofs.Junctions
import PageRouter.Proofs.Flattening
import PageRouter.Proofs.CacheRuns
import PageRouter.Proofs.Recency
import PageRouter.Proofs.Custody
import PageRouter.Proofs.Segments
import PageRouter.Proofs.Queries
import PageRouter.Proofs.Trails
import PageRouter.Proofs.Lineage
import PageRouter.Proofs.Destinations
import PageRouter.Proofs.Staying
import PageRouter.Proofs.Grammar
import PageRouter.Proofs.Outside
import PageRouter.Proofs.Origins
import PageRouter.Proofs.Hearings
import PageRouter.Proofs.Refusals
import PageRouter.Proofs.Affairs
import PageRouter.Proofs.Courses
import PageRouter.Proofs.Ledger
import PageRouter.Proofs.Interception
import PageRouter.Proofs.Displays
import PageRouter.Proofs.Requeries
import PageRouter.Proofs.Undisturbed
import PageRouter.Proofs.Emissions
import PageRouter.Proofs.Registrations
import PageRouter.Proofs.Bystanders
import PageRouter.Proofs.Rounds
import PageRouter.Proofs.Returns
import PageRouter.Proofs.Stranded
import PageRouter.Proofs.Removals
import PageRouter.Proofs.Remounts
import PageRouter.Proofs.Unmounting
import PageRouter.Proofs.Scanning
import PageRouter.Proofs.Freshness
import PageRouter.Proofs.Occurrences
import PageRouter.Proofs.QueryReaders
import PageRouter.Proofs.Merging
import PageRouter.Proofs.Transparency
import PageRouter.Proofs.Rereading
import PageRouter.Proofs.Spending
import PageRouter.Proofs.Endings
import PageRouter.Proofs.QueryUpdates
import PageRouter.Proofs.Roots
import PageRouter.Proofs.NormalPaths
import PageRouter.Proofs.Zipper
import PageRouter.Proofs.Forms
import PageRouter.Proofs.Rendering
import PageRouter.Proofs.Resolving
