import SqlCache.Backend
import SqlCache.Command
import SqlCache.CommandLine.Arguments
import SqlCache.CommandLine.Directory
import SqlCache.CommandLine.Run
import SqlCache.Config.Basic
import SqlCache.Config.Decode
import SqlCache.Config.Expand
import SqlCache.Counter
import SqlCache.Database
import SqlCache.Database.Location
import SqlCache.Database.Uri
import SqlCache.Dialogue
import SqlCache.Entry
import SqlCache.Error
import SqlCache.Glob.Bracket
import SqlCache.Glob.Pattern
import SqlCache.Main
import SqlCache.Operation
import SqlCache.Page
import SqlCache.Plan
import SqlCache.Postgres.Exchange
import SqlCache.Postgres.Server
import SqlCache.Postgres.Statement
import SqlCache.Proofs.Backend.Clock
import SqlCache.Proofs.Backend.Faltering
import SqlCache.Proofs.Command.Deletion
import SqlCache.Proofs.Command.Fields
import SqlCache.Proofs.Command.Independence
import SqlCache.Proofs.Config.Grammar
import SqlCache.Proofs.Counter.Absence
import SqlCache.Proofs.Counter.Handles
import SqlCache.Proofs.Counter.Increment
import SqlCache.Proofs.Counter.Readers
import SqlCache.Proofs.Counter.Stage
import SqlCache.Proofs.Counter.Sums
import SqlCache.Proofs.Database.Alike
import SqlCache.Proofs.Database.Alone
import SqlCache.Proofs.Database.Lock
import SqlCache.Proofs.Database.Occasion
import SqlCache.Proofs.Dialogue.Transcript
import SqlCache.Proofs.Dictionary.Basic
import SqlCache.Proofs.Dictionary.Refinement
import SqlCache.Proofs.Glob.Dialects
import SqlCache.Proofs.Glob.Language
import SqlCache.Proofs.Handles.Basic
import SqlCache.Proofs.Handles.Cursors
import SqlCache.Proofs.Handles.Messages
import SqlCache.Proofs.Handles.Replay
import SqlCache.Proofs.Handles.Serial
import SqlCache.Proofs.Handles.Serializable
import SqlCache.Proofs.Handles.Tables
import SqlCache.Proofs.Lease.Handles
import SqlCache.Proofs.Lease.Held
import SqlCache.Proofs.Lifetime.Accuracy
import SqlCache.Proofs.Lifetime.Basic
import SqlCache.Proofs.Lifetime.Creation
import SqlCache.Proofs.Lifetime.Outlasts
import SqlCache.Proofs.Postgres.Counters
import SqlCache.Proofs.Postgres.Queries
import SqlCache.Proofs.Postgres.ReadCommitted
import SqlCache.Proofs.Postgres.Statements
import SqlCache.Proofs.Postgres.Transaction
import SqlCache.Proofs.PubSub.Attachment
import SqlCache.Proofs.PubSub.Delivery
import SqlCache.Proofs.PubSub.Discipline
import SqlCache.Proofs.PubSub.Moves
import SqlCache.Proofs.PubSub.Progress
import SqlCache.Proofs.PubSub.Resumption
import SqlCache.Proofs.PubSub.Rounds
import SqlCache.Proofs.PubSub.Served
import SqlCache.Proofs.PubSub.Subscribers
import SqlCache.Proofs.PubSub.Visibility
import SqlCache.Proofs.PubSub.Watched
import SqlCache.Proofs.Reaper.Cutoff
import SqlCache.Proofs.Reaper.Invisible
import SqlCache.Proofs.Reaper.Owner
import SqlCache.Proofs.Reaper.Ownership
import SqlCache.Proofs.Reaper.Removal
import SqlCache.Proofs.Reaper.Schedule
import SqlCache.Proofs.Reaper.Task
import SqlCache.Proofs.Scan.Complete
import SqlCache.Proofs.Scan.Edited
import SqlCache.Proofs.Scan.Pages
import SqlCache.Proofs.Session.Transaction
import SqlCache.Proofs.Store.Cursors
import SqlCache.Proofs.Store.Dictionary
import SqlCache.Proofs.Store.Fields
import SqlCache.Proofs.Store.Frame
import SqlCache.Proofs.Store.Items
import SqlCache.Proofs.Store.Messages
import SqlCache.Proofs.Text.Integer
import SqlCache.Proofs.Text.Numeral
import SqlCache.Proofs.Text.Order
import SqlCache.Proofs.Time.Expiry
import SqlCache.Proofs.Time.Inversion
import SqlCache.PubSub.Log
import SqlCache.PubSub.Poller
import SqlCache.PubSub.Recording
import SqlCache.PubSub.Timeline
import SqlCache.Reaper.Pass
import SqlCache.Reaper.Timeline
import SqlCache.Session.Basic
import SqlCache.Session.Opening
import SqlCache.Session.Run
import SqlCache.Session.Step
import SqlCache.Session.Subscriptions
import SqlCache.Store.Basic
import SqlCache.Store.Live
import SqlCache.Store.Log
import SqlCache.Store.Purge
import SqlCache.Store.Snapshot
import SqlCache.Text.Blank
import SqlCache.Text.Columns
import SqlCache.Text.Emoji
import SqlCache.Text.Integer
import SqlCache.Text.Octets
import SqlCache.Text.Quoted
import SqlCache.Text.Style
import SqlCache.Text.Table
import SqlCache.Text.Width
import SqlCache.Text.Wrap
import SqlCache.Time.Expiry
import SqlCache.Time.Instant
import SqlCache.Time.Timer
import SqlCache.Time.Timestamp
import SqlCache.Value
import SqlCache.Yaml.Cursor
import SqlCache.Yaml.Document
import SqlCache.Yaml.Node
import SqlCache.Yaml.Number
import SqlCache.Yaml.Scalar
import SqlCache.Yaml.Token
