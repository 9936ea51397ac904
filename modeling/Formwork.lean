import Formwork.Bytes.Base64
import Formwork.Bytes.Sha256
import Formwork.Calendar.Date
import Formwork.Calendar.Moment
import Formwork.Command.Arguments
import Formwork.Command.Basic
import Formwork.Command.Layout
import Formwork.Command.Run
import Formwork.Condition.Basic
import Formwork.Condition.Document
import Formwork.Condition.Evaluation
import Formwork.Config
import Formwork.Config.File
import Formwork.Entries
import Formwork.FieldType
import Formwork.File
import Formwork.Json.Parser
import Formwork.Json.Printer
import Formwork.Library
import Formwork.Log.Record
import Formwork.Log.Setup
import Formwork.Main
import Formwork.Names
import Formwork.Notice
import Formwork.Number.Binary64
import Formwork.Number.Decimal
import Formwork.Pattern.Basic
import Formwork.Pattern.Matcher
import Formwork.Pattern.Parser
import Formwork.Proofs.Entries
import Formwork.Reading
import Formwork.Registry
import Formwork.Remote
import Formwork.Ruleset.Basic
import Formwork.Ruleset.Compile
import Formwork.Schema.Basic
import Formwork.Schema.Check
import Formwork.Schema.Document
import Formwork.Schema.Reader
import Formwork.Steps.Sequence
import Formwork.Steps.State
import Formwork.Steps.Token
import Formwork.Store
import Formwork.Table
import Formwork.Text.Class
import Formwork.Text.Markup
import Formwork.Text.Quoted
import Formwork.Text.Table.Alphanumeric
import Formwork.Text.Table.Digit
import Formwork.Text.Table.LowerCase
import Formwork.Text.Table.Unprintable
import Formwork.Text.Template
import Formwork.Toml.Parser
import Formwork.Toml.Table
import Formwork.Validator
import Formwork.Value.Basic
import Formwork.Value.Equality
import Formwork.Value.Text
import Formwork.Visibility.Basic
import Formwork.Visibility.Cycle
import Formwork.Visibility.Tracker
import Formwork.Workspace.Actions
import Formwork.Workspace.Basic
import Formwork.Workspace.Callbacks
import Formwork.Workspace.Changes
import Formwork.Workspace.Sessions
import Formwork.Workspace.Visibility
import Formwork.Proofs.Value.Equality
import Formwork.Proofs.Condition.Reading
import Formwork.Proofs.Visibility.Conditions
import Formwork.Proofs.Visibility.Cycle
import Formwork.Proofs.Form.Basic
import Formwork.Proofs.Form.Sound
import Formwork.Proofs.Workspace.Effect
import Formwork.Proofs.Workspace.Recording
import Formwork.Proofs.Workspace.Form
import Formwork.Proofs.Form.Serving
import Formwork.Proofs.Workspace.Opening
import Formwork.Proofs.Session.Attended
import Formwork.Proofs.Session.Opening
import Formwork.Proofs.Session.Filling
import Formwork.Proofs.Session.Current
import Formwork.Proofs.Workspace.Settling
import Formwork.Proofs.Ruleset.Required
import Formwork.Proofs.Session.Submission
import Formwork.Proofs.Steps.Sequence
import Formwork.Proofs.Steps.Underway
import Formwork.Proofs.Steps.Completion
import Formwork.Proofs.Ruleset.Reading
import Formwork.Proofs.Session.Payload
import Formwork.Proofs.Form.Edits
import Formwork.Proofs.Session.Waiting
import Formwork.Proofs.Steps.Visits
import Formwork.Proofs.Steps.Merging
import Formwork.Proofs.Steps.Driving
import Formwork.Proofs.Ruleset.Phases
import Formwork.Proofs.Ruleset.Validation
import Formwork.Proofs.Ruleset.Raising
import Formwork.Proofs.Ruleset.ByPhase
import Formwork.Proofs.Ruleset.Hidden
import Formwork.Proofs.Ruleset.Sections
import Formwork.Proofs.Visibility.Agreement
import Formwork.Proofs.Form.Agreement
import Formwork.Proofs.Session.Initial
import Formwork.Proofs.Session.Batching
import Formwork.Proofs.Bytes.Text
import Formwork.Proofs.Steps.Token
import Formwork.Proofs.Steps.Resuming
import Formwork.Proofs.Steps.Returning
import Formwork.Proofs.Store.Operations
import Formwork.Proofs.Store.Subscribers
import Formwork.Proofs.Store.Watchers
import Formwork.Proofs.Store.Sharing
import Formwork.Proofs.Condition.Leaves
import Formwork.Proofs.Condition.Document
import Formwork.Proofs.Store.Unheard
import Formwork.Proofs.Visibility.Removal
import Formwork.Proofs.Host.Change
import Formwork.Proofs.Host.Telling
import Formwork.Proofs.Host.Sessions
import Formwork.Proofs.Host.Actions
import Formwork.Proofs.Host.Recording
import Formwork.Proofs.Session.Switching
import Formwork.Proofs.Schema.Document
import Formwork.Proofs.Ruleset.Declarations
import Formwork.Proofs.Steps.Scope
import Formwork.Proofs.Visibility.Order
import Formwork.Proofs.Workspace.Mirroring
import Formwork.Proofs.Host.Order
import Formwork.Proofs.Names
import Formwork.Proofs.Visibility.Index
import Formwork.Proofs.Ruleset.Messages
import Formwork.Proofs.Ruleset.Unregistered
import Formwork.Proofs.Schema.Check
import Formwork.Proofs.Library.Faults
import Formwork.Proofs.Library.Order
import Formwork.Proofs.Ruleset.TextBounds
import Formwork.Proofs.Workspace.Bystanders
import Formwork.Proofs.Store.Failing
import Formwork.Proofs.Library.Identifier
import Formwork.Proofs.Value.Places
import Formwork.Proofs.Host.Code
import Formwork.Proofs.Host.Informing
import Formwork.Proofs.Session.Audience
import Formwork.Proofs.Host.Calls
import Formwork.Proofs.Store.Books
import Formwork.Proofs.Host.Noting
import Formwork.Proofs.Store.Roll
import Formwork.Proofs.Store.Ledger
