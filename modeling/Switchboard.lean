import Switchboard.Calendar.Date
import Switchboard.Calendar.Instant
import Switchboard.Calendar.Timestamp
import Switchboard.Catalogue.Document
import Switchboard.Catalogue.Loading
import Switchboard.Catalogue.OpeningHours
import Switchboard.Catalogue.Template
import Switchboard.Chat.Directory
import Switchboard.Chat.Document
import Switchboard.Chat.Event
import Switchboard.Chat.Message
import Switchboard.Chat.Operator
import Switchboard.Chat.Session
import Switchboard.Chat.Store
import Switchboard.Chat.Visit
import Switchboard.Command
import Switchboard.Desk.Basic
import Switchboard.Desk.Office
import Switchboard.Desk.Opening
import Switchboard.Desk.Simulation
import Switchboard.Desk.Workspace
import Switchboard.Dict
import Switchboard.Failure
import Switchboard.Flow.Condition
import Switchboard.Flow.Draft
import Switchboard.Flow.Graph
import Switchboard.Flow.Interpolation
import Switchboard.Flow.Report
import Switchboard.Flow.Sample
import Switchboard.Flow.Services
import Switchboard.Flow.Settlement
import Switchboard.Flow.Walk
import Switchboard.Json.Number
import Switchboard.Json.Path
import Switchboard.Json.Printer
import Switchboard.Json.Reader
import Switchboard.Json.Record
import Switchboard.Json.Token
import Switchboard.Json.Value
import Switchboard.Main
import Switchboard.Number.Binary64
import Switchboard.Number.Decimal
import Switchboard.Number.Shortest
import Switchboard.Number.Written
import Switchboard.Proofs.Chat.Account
import Switchboard.Proofs.Chat.Change
import Switchboard.Proofs.Success
import Switchboard.Script.Evaluation
import Switchboard.Script.Parser
import Switchboard.Script.Program
import Switchboard.Script.Scanner
import Switchboard.Script.Token
import Switchboard.Settings.Basic
import Switchboard.Settings.Document
import Switchboard.Settings.Environment
import Switchboard.Text.Alphabetic
import Switchboard.Text.Blank
import Switchboard.Text.CaseMap
import Switchboard.Text.CharSet
import Switchboard.Text.Printable
import Switchboard.Text.Quoted
import Switchboard.Text.Replace
import Switchboard.Text.WordChar
import Switchboard.Toml.Printer
import Switchboard.Toml.Reader
import Switchboard.Toml.Scalar
import Switchboard.Toml.Text
import Switchboard.Toml.Tree
import Switchboard.Proofs.Flow.Handler
import Switchboard.Proofs.Flow.Round
import Switchboard.Proofs.Chat.Growth
import Switchboard.Proofs.Desk.History
import Switchboard.Proofs.Desk.Order
import Switchboard.Proofs.Desk.Upkeep
import Switchboard.Proofs.Desk.Waiting
import Switchboard.Proofs.Desk.Handover
import Switchboard.Proofs.Desk.Refusal
import Switchboard.Proofs.Chat.Operation
import Switchboard.Proofs.Chat.News
import Switchboard.Proofs.Chat.Standing
import Switchboard.Proofs.Chat.Dealings
import Switchboard.Proofs.Chat.Chronicle
import Switchboard.Chat.Registry
import Switchboard.Proofs.Chat.Succession
import Switchboard.Proofs.Chat.Registry
import Switchboard.Proofs.Desk.Welcome
import Switchboard.Proofs.Flow.Building
import Switchboard.Proofs.Flow.Motion
import Switchboard.Proofs.Flow.Journey
import Switchboard.Proofs.Flow.Budget
import Switchboard.Proofs.Flow.Acyclic
import Switchboard.Proofs.Script.Grammar
import Switchboard.Proofs.Script.Parsing
import Switchboard.Proofs.Script.Recognition
import Switchboard.Proofs.Script.Cost
import Switchboard.Proofs.Script.Scanning
import Switchboard.Proofs.Script.Comment
import Switchboard.Proofs.Flow.Confined
import Switchboard.Proofs.Desk.Locality
import Switchboard.Proofs.Desk.Commuting
import Switchboard.Proofs.Json.Members
import Switchboard.Proofs.Flow.Spelling
import Switchboard.Proofs.Flow.Frame
import Switchboard.Proofs.Flow.Trail
import Switchboard.Proofs.Chat.Work
import Switchboard.Proofs.Flow.Ending
import Switchboard.Proofs.Desk.Launch
import Switchboard.Proofs.Desk.Service
import Switchboard.Proofs.Desk.Verdict
import Switchboard.Proofs.Flow.InHand
import Switchboard.Proofs.Desk.Resumption
import Switchboard.Proofs.Desk.Inbox
import Switchboard.Proofs.Flow.Entry
import Switchboard.Proofs.Desk.Unentered
import Switchboard.Proofs.Desk.Terminal
import Switchboard.Proofs.Flow.Likeness
import Switchboard.Proofs.Flow.Arrangement
import Switchboard.Proofs.Desk.Arrangement
import Switchboard.Proofs.Number.Extent
import Switchboard.Proofs.Script.Size
import Switchboard.Proofs.Desk.Reply
import Switchboard.Proofs.Desk.Lobby
import Switchboard.Proofs.Calendar.Days
import Switchboard.Proofs.Calendar.Timestamp
import Switchboard.Proofs.Json.Dictionary
import Switchboard.Proofs.Json.Text
import Switchboard.Proofs.Chat.Roundtrip
import Switchboard.Proofs.Flow.Comparison
import Switchboard.Proofs.Flow.Placeholder
import Switchboard.Proofs.Dict
import Switchboard.Proofs.Script.Assignment
import Switchboard.Proofs.Flow.Effect
import Switchboard.Proofs.Calendar.Week
import Switchboard.Proofs.Catalogue.Rules
import Switchboard.Proofs.Catalogue.Entries
import Switchboard.Proofs.Catalogue.Hours
import Switchboard.Proofs.Chat.Presence
import Switchboard.Proofs.Flow.Record
import Switchboard.Proofs.Settings.Environment
import Switchboard.Proofs.Flow.Branching
import Switchboard.Proofs.Flow.Whereabouts
import Switchboard.Proofs.Flow.Selection
import Switchboard.Proofs.Chat.Timing
import Switchboard.Proofs.Json.Path
import Switchboard.Proofs.Script.Writing
import Switchboard.Proofs.Script.Recursion
