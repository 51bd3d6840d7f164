import PatternRefinement.Archive
import PatternRefinement.Catalog
import PatternRefinement.Character.Composition
import PatternRefinement.Character.Direction
import PatternRefinement.Character.Joining
import PatternRefinement.Character.Mark
import PatternRefinement.Character.NameMapping
import PatternRefinement.Character.Ranges
import PatternRefinement.CommandLine.Level
import PatternRefinement.CommandLine.Reader
import PatternRefinement.CommandLine.Usage
import PatternRefinement.Counter
import PatternRefinement.Disposition
import PatternRefinement.Download
import PatternRefinement.Failure
import PatternRefinement.FileTree.Access
import PatternRefinement.FileTree.Basic
import PatternRefinement.FileTree.Path
import PatternRefinement.Json.Numeral
import PatternRefinement.Json.Printer
import PatternRefinement.Json.Reader
import PatternRefinement.Json.Value
import PatternRefinement.Main
import PatternRefinement.Number.Binary64
import PatternRefinement.Number.Shortest
import PatternRefinement.Program
import PatternRefinement.Request
import PatternRefinement.Service.Basic
import PatternRefinement.Service.Exchange
import PatternRefinement.Service.Redirect
import PatternRefinement.Service.Wire
import PatternRefinement.Session.Basic
import PatternRefinement.Session.Numbered
import PatternRefinement.Session.Plan
import PatternRefinement.Settings
import PatternRefinement.Settings.UserFolder
import PatternRefinement.Status
import PatternRefinement.StepCount
import PatternRefinement.Text.Base64
import PatternRefinement.Text.Blank
import PatternRefinement.Text.Digits
import PatternRefinement.Text.Percent
import PatternRefinement.Text.Reader
import PatternRefinement.Text.Utf8
import PatternRefinement.Toml.Document
import PatternRefinement.Toml.Scalar
import PatternRefinement.Toml.Table
import PatternRefinement.Toml.Text
import PatternRefinement.WebAddress.Basic
import PatternRefinement.WebAddress.Host
import PatternRefinement.WebAddress.InternationalName
import PatternRefinement.WebAddress.Joining
import PatternRefinement.WebAddress.Punycode
import PatternRefinement.WebAddress.Reader
import PatternRefinement.Workbench.Basic
import PatternRefinement.Workbench.Edits
import PatternRefinement.Workbench.Service
import PatternRefinement.Proofs.Selection
import PatternRefinement.Proofs.Session.PlanInvariant
import PatternRefinement.Proofs.Number.Rounding
import PatternRefinement.Proofs.Number.Scaling
import PatternRefinement.Proofs.Number.Shortest
import PatternRefinement.Proofs.Text.Digits
import PatternRefinement.Proofs.Json.Numeral
import PatternRefinement.Proofs.Json.Layout
import PatternRefinement.Proofs.Json.ReadBack
import PatternRefinement.Proofs.RequestRoundTrip
import PatternRefinement.Proofs.Json.Members
import PatternRefinement.Proofs.FileTree.Access
import PatternRefinement.Proofs.FileTree.Path
import PatternRefinement.Proofs.FileTree.Directory
import PatternRefinement.Proofs.Download.Names
import PatternRefinement.Proofs.Download
import PatternRefinement.Proofs.Text.Blank
import PatternRefinement.Proofs.Text.Split
import PatternRefinement.Proofs.Text.Items
import PatternRefinement.Proofs.Workbench.Runs
import PatternRefinement.Proofs.Workbench.Requests
import PatternRefinement.Proofs.Workbench.Erasure
import PatternRefinement.Proofs.Counter
import PatternRefinement.Proofs.Workbench.Labels
import PatternRefinement.Proofs.Download.Ending
import PatternRefinement.Proofs.Download.Preservation
import PatternRefinement.Proofs.Counter.Frame
import PatternRefinement.Proofs.Workbench.Confinement
import PatternRefinement.Proofs.Counter.Updates
import PatternRefinement.Proofs.Workbench.Messages
import PatternRefinement.Proofs.Text.Percent
import PatternRefinement.Proofs.Disposition
import PatternRefinement.Proofs.Names
import PatternRefinement.Proofs.Service.Places
import PatternRefinement.Proofs.Service.Redirects
import PatternRefinement.Proofs.Workbench.Production
import PatternRefinement.Proofs.Workbench.Choices
import PatternRefinement.Proofs.Workbench.PlanChoices
import PatternRefinement.Proofs.Program.Basic
import PatternRefinement.Proofs.Program.Generate
import PatternRefinement.Proofs.Program.GenerateNext
import PatternRefinement.Proofs.Counter.Outside
import PatternRefinement.Proofs.FileTree.Creation
import PatternRefinement.Proofs.Session.OneStep
import PatternRefinement.Proofs.Session.ToggleOrder
import PatternRefinement.Proofs.Download.SafeNames
import PatternRefinement.Proofs.Download.GivenName
import PatternRefinement.Proofs.Workbench.Reports
import PatternRefinement.Proofs.Workbench.ToldName
import PatternRefinement.Proofs.Workbench.SavedArchive
import PatternRefinement.Proofs.Program.Endings
import PatternRefinement.Proofs.Workbench.PlanEdits
import PatternRefinement.Proofs.Disposition.Positions
import PatternRefinement.Proofs.Download.Numbering
import PatternRefinement.Proofs.Download.Outcome
import PatternRefinement.Proofs.Download.Candidates
import PatternRefinement.Proofs.Session.CatalogChange
import PatternRefinement.Proofs.StepCount
import PatternRefinement.Proofs.Json.Spelling
import PatternRefinement.Proofs.RequestLanguage
import PatternRefinement.Proofs.Text.Repair
import PatternRefinement.Proofs.Archive
import PatternRefinement.Proofs.Archive.FileList
import PatternRefinement.Proofs.Catalog
import PatternRefinement.Proofs.Workbench.Listing
import PatternRefinement.Proofs.Counter.Loading
import PatternRefinement.Proofs.CommandLine
import PatternRefinement.Proofs.Settings
import PatternRefinement.Proofs.Program.Settings
import PatternRefinement.Proofs.Disposition.Quoted
import PatternRefinement.Proofs.Disposition.LetterCase
import PatternRefinement.Proofs.Text.LetterCase
import PatternRefinement.Proofs.Service.NamedPath
import PatternRefinement.Proofs.Download.Projection
import PatternRefinement.Proofs.Text.Escapes
import PatternRefinement.Proofs.Names.Order
