import BranchingStory.Choice.Basic
import BranchingStory.Choice.Resolver
import BranchingStory.Decimal.Binary64
import BranchingStory.Decimal.Positional
import BranchingStory.Decimal.Reading
import BranchingStory.Decimal.Shortest
import BranchingStory.Dialogue.Basic
import BranchingStory.Dialogue.Cursor
import BranchingStory.Event.Binding
import BranchingStory.Event.Evaluator
import BranchingStory.Event.Rule
import BranchingStory.Event.Tag
import BranchingStory.Files.Access
import BranchingStory.Files.Path
import BranchingStory.Files.Tree
import BranchingStory.Json.Basic
import BranchingStory.Json.Datum
import BranchingStory.Json.Number
import BranchingStory.Json.Text
import BranchingStory.Linter
import BranchingStory.Main
import BranchingStory.Markup
import BranchingStory.Notation.Fault
import BranchingStory.Notation.Notated
import BranchingStory.Notation.Printer
import BranchingStory.Notation.Reader
import BranchingStory.Notation.Scan
import BranchingStory.Notation.Shape
import BranchingStory.Notation.Skip
import BranchingStory.Notation.Story
import BranchingStory.Package
import BranchingStory.PlayerState
import BranchingStory.Preview.Basic
import BranchingStory.Preview.Save
import BranchingStory.Preview.View
import BranchingStory.Proofs.Choice.Resolver
import BranchingStory.Proofs.Decimal.Nearby
import BranchingStory.Proofs.Decimal.Reading
import BranchingStory.Proofs.Decimal.Rounding
import BranchingStory.Proofs.Dialogue.Cursor
import BranchingStory.Proofs.Dialogue.Handles
import BranchingStory.Proofs.Dialogue.InPlace
import BranchingStory.Proofs.Dialogue.Leaving
import BranchingStory.Proofs.Dialogue.Walk
import BranchingStory.Proofs.Event.Application
import BranchingStory.Proofs.Event.Binding
import BranchingStory.Proofs.Event.Consulting
import BranchingStory.Proofs.Event.Draws
import BranchingStory.Proofs.Event.Independence
import BranchingStory.Proofs.Event.Meaning
import BranchingStory.Proofs.Event.Number
import BranchingStory.Proofs.Event.OrderSeed
import BranchingStory.Proofs.Event.Responsibility
import BranchingStory.Proofs.Json.Datum
import BranchingStory.Proofs.Json.Number
import BranchingStory.Proofs.Json.Text
import BranchingStory.Proofs.Linter.Directory
import BranchingStory.Proofs.Linter.Verdict
import BranchingStory.Proofs.Markup.Bytes
import BranchingStory.Proofs.Markup.Decomposition
import BranchingStory.Proofs.Markup.Passes
import BranchingStory.Proofs.Markup.Scan
import BranchingStory.Proofs.Markup.Stability
import BranchingStory.Proofs.Notation.Depth
import BranchingStory.Proofs.Notation.Fields
import BranchingStory.Proofs.Notation.Fitting
import BranchingStory.Proofs.Notation.Layout
import BranchingStory.Proofs.Notation.NodeLayout
import BranchingStory.Proofs.Notation.Notated
import BranchingStory.Proofs.Notation.Primitive
import BranchingStory.Proofs.Notation.RoundTrip
import BranchingStory.Proofs.Notation.Rules
import BranchingStory.Proofs.Notation.Scan
import BranchingStory.Proofs.Notation.Story
import BranchingStory.Proofs.Notation.StoryLayout
import BranchingStory.Proofs.Preview.Acceptance
import BranchingStory.Proofs.Preview.Refinement
import BranchingStory.Proofs.Preview.Refusal
import BranchingStory.Proofs.Preview.Replay
import BranchingStory.Proofs.Preview.Saves
import BranchingStory.Proofs.Session.Choosing
import BranchingStory.Proofs.Session.Draws
import BranchingStory.Proofs.Session.Progress
import BranchingStory.Proofs.Session.Refusal
import BranchingStory.Proofs.Session.Restore
import BranchingStory.Proofs.Session.Run
import BranchingStory.Proofs.Session.Transitions
import BranchingStory.Proofs.Shell.Loading
import BranchingStory.Proofs.Shuffle.Carry
import BranchingStory.Proofs.Shuffle.Order
import BranchingStory.Proofs.Store.Alike
import BranchingStory.Proofs.Store.Building
import BranchingStory.Proofs.Store.Gathering
import BranchingStory.Proofs.Store.Insertion
import BranchingStory.Proofs.Store.Keyed
import BranchingStory.Proofs.Store.Loading
import BranchingStory.Proofs.Store.Meaning
import BranchingStory.Proofs.Store.Merging
import BranchingStory.Proofs.Store.Sorting
import BranchingStory.Proofs.Text.Boundary
import BranchingStory.Proofs.Text.Bytes
import BranchingStory.Proofs.Text.Numeral
import BranchingStory.Proofs.Text.Quoted
import BranchingStory.Proofs.Validation.Addresses
import BranchingStory.Proofs.Validation.Listing
import BranchingStory.Proofs.Validation.Playable
import BranchingStory.Proofs.Validation.Prediction
import BranchingStory.Proofs.Validation.Reachability
import BranchingStory.Proofs.Validation.Report
import BranchingStory.Session.Basic
import BranchingStory.Shell.Basic
import BranchingStory.Shell.Presentation
import BranchingStory.Shell.Settings
import BranchingStory.Shuffle.Order
import BranchingStory.Shuffle.Stream
import BranchingStory.Store.Basic
import BranchingStory.Store.Sources
import BranchingStory.StoryError
import BranchingStory.Table
import BranchingStory.Text.CharacterClass
import BranchingStory.Text.Lowercase
import BranchingStory.Text.Numeral
import BranchingStory.Text.Printable
import BranchingStory.Text.Quoted
import BranchingStory.Text.Slice
import BranchingStory.Validation.Check
import BranchingStory.Validation.Issue
import BranchingStory.Validation.Reachability
import BranchingStory.Value
