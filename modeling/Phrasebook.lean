import Phrasebook.Assembly
import Phrasebook.Bundled
import Phrasebook.Catalog
import Phrasebook.Dict
import Phrasebook.Display
import Phrasebook.Effect
import Phrasebook.Fault
import Phrasebook.Loader.Basic
import Phrasebook.Loader.Directory
import Phrasebook.Loader.Document
import Phrasebook.Loader.Files
import Phrasebook.Locale
import Phrasebook.Logging
import Phrasebook.Manager
import Phrasebook.Notifier.Delivery
import Phrasebook.Notifier.Registry
import Phrasebook.Number.Binary64
import Phrasebook.Number.Integer
import Phrasebook.Number.Real
import Phrasebook.Number.Shortest
import Phrasebook.Proofs.Catalog.Merging
import Phrasebook.Proofs.Dict.Merging
import Phrasebook.Proofs.Dict.Order
import Phrasebook.Proofs.Display.FaultContainment
import Phrasebook.Proofs.Display.Refresh
import Phrasebook.Proofs.Loader.Agreement
import Phrasebook.Proofs.Loader.Answers
import Phrasebook.Proofs.Loader.Contents
import Phrasebook.Proofs.Loader.Directory
import Phrasebook.Proofs.Loader.Discovery
import Phrasebook.Proofs.Loader.Edits
import Phrasebook.Proofs.Loader.Enumeration
import Phrasebook.Proofs.Loader.Files
import Phrasebook.Proofs.Loader.Growth
import Phrasebook.Proofs.Loader.Latest
import Phrasebook.Proofs.Loader.Meaning
import Phrasebook.Proofs.Loader.Merging
import Phrasebook.Proofs.Loader.Quiet
import Phrasebook.Proofs.Manager.Dependence
import Phrasebook.Proofs.Manager.Holding
import Phrasebook.Proofs.Manager.Loading
import Phrasebook.Proofs.Manager.Overlay
import Phrasebook.Proofs.Manager.Reload
import Phrasebook.Proofs.Manager.Rereading
import Phrasebook.Proofs.Manager.Untranslated
import Phrasebook.Proofs.Notifier.Calls
import Phrasebook.Proofs.Notifier.Delivery
import Phrasebook.Proofs.Notifier.Evolution
import Phrasebook.Proofs.Notifier.Ledger
import Phrasebook.Proofs.Notifier.Registry
import Phrasebook.Proofs.Number.Decimal
import Phrasebook.Proofs.Rule.Categories
import Phrasebook.Proofs.Rule.Evaluation
import Phrasebook.Proofs.Rule.KeyedForms
import Phrasebook.Proofs.Rule.Precedence
import Phrasebook.Proofs.Rule.Procedure
import Phrasebook.Proofs.Rule.Recognition
import Phrasebook.Proofs.Rule.Selection
import Phrasebook.Proofs.Rule.Stepwise
import Phrasebook.Proofs.Rule.Writing
import Phrasebook.Proofs.Script.Acts
import Phrasebook.Proofs.Script.Announcements
import Phrasebook.Proofs.Script.Broadcast
import Phrasebook.Proofs.Script.Causes
import Phrasebook.Proofs.Script.Course
import Phrasebook.Proofs.Script.Freshness
import Phrasebook.Proofs.Script.History
import Phrasebook.Proofs.Script.Invariant
import Phrasebook.Proofs.Script.OneShot
import Phrasebook.Proofs.Script.Publication
import Phrasebook.Proofs.Script.Reception
import Phrasebook.Proofs.Script.Registration
import Phrasebook.Proofs.Script.Rendering
import Phrasebook.Proofs.Script.Service
import Phrasebook.Proofs.Script.Switching
import Phrasebook.Proofs.Script.Sinks
import Phrasebook.Proofs.Script.Followers
import Phrasebook.Proofs.Template.Asking
import Phrasebook.Proofs.Template.Beside
import Phrasebook.Proofs.Template.Calls
import Phrasebook.Proofs.Template.Fetching
import Phrasebook.Proofs.Template.Grammar
import Phrasebook.Proofs.Template.Lockstep
import Phrasebook.Proofs.Template.Placeholders
import Phrasebook.Proofs.Template.References
import Phrasebook.Proofs.Template.Rewriting
import Phrasebook.Proofs.Template.Scanning
import Phrasebook.Proofs.Template.Segment
import Phrasebook.Proofs.Template.Simulation
import Phrasebook.Proofs.Template.SinglePass
import Phrasebook.Proofs.Template.Splicing
import Phrasebook.Proofs.Template.Stages
import Phrasebook.Proofs.Template.Successive
import Phrasebook.Proofs.Template.Survival
import Phrasebook.Proofs.Template.TokenClass
import Phrasebook.Proofs.Text.Cutting
import Phrasebook.Proofs.Text.Order
import Phrasebook.Proofs.Text.SmallLetters
import Phrasebook.Report
import Phrasebook.Rule.Basic
import Phrasebook.Rule.Call
import Phrasebook.Rule.Chain
import Phrasebook.Rule.Index
import Phrasebook.Rule.Plural
import Phrasebook.Rule.Sample
import Phrasebook.Script.Delivery
import Phrasebook.Script.Run
import Phrasebook.Script.Setup
import Phrasebook.Script.Step
import Phrasebook.Script.World
import Phrasebook.Settings.Basic
import Phrasebook.Settings.Dotenv
import Phrasebook.Settings.Json
import Phrasebook.Settings.Path
import Phrasebook.Settings.Problem
import Phrasebook.Template.Placeholder
import Phrasebook.Template.Reference
import Phrasebook.Template.Render
import Phrasebook.Template.Splice
import Phrasebook.Template.Token
import Phrasebook.Text.Basic
import Phrasebook.Text.Blank
import Phrasebook.Text.DecimalDigit
import Phrasebook.Text.Half
import Phrasebook.Text.Lowercase
import Phrasebook.Text.Printable
import Phrasebook.Text.Quoted
import Phrasebook.Value.Basic
import Phrasebook.Value.Equality
import Phrasebook.Value.Text
import Phrasebook.Yaml.Base64
import Phrasebook.Yaml.Build
import Phrasebook.Yaml.Cursor
import Phrasebook.Yaml.Excerpt
import Phrasebook.Yaml.Grammar
import Phrasebook.Yaml.Graph
import Phrasebook.Yaml.Layout
import Phrasebook.Yaml.Load
import Phrasebook.Yaml.Node
import Phrasebook.Yaml.Numeral
import Phrasebook.Yaml.Scalar.Block
import Phrasebook.Yaml.Scalar.Meaning
import Phrasebook.Yaml.Scalar.Plain
import Phrasebook.Yaml.Scalar.Quoted
import Phrasebook.Yaml.Timestamp
import Phrasebook.Yaml.Token
