import CardHost.Backend
import CardHost.Binding
import CardHost.Bits
import CardHost.Card
import CardHost.CardError
import CardHost.Cli.Arguments
import CardHost.Cli.Conversation
import CardHost.Cli.Display
import CardHost.Cli.Ending
import CardHost.Cli.Listing
import CardHost.Cli.Style
import CardHost.Clock
import CardHost.Config.Decode
import CardHost.Config.Environment
import CardHost.Config.Load
import CardHost.Config.Value
import CardHost.Config.Wrapping
import CardHost.Decimal.Binary64
import CardHost.Decimal.Digits
import CardHost.Decimal.Shortest
import CardHost.Handle
import CardHost.Hex
import CardHost.HostError
import CardHost.Hub
import CardHost.Idc.CardData
import CardHost.Idc.Command
import CardHost.Idc.Status
import CardHost.Main
import CardHost.Message
import CardHost.Named
import CardHost.Pcsc.Card
import CardHost.Pcsc.Code
import CardHost.Pcsc.Manager
import CardHost.Pcsc.Native
import CardHost.Pending.Queue
import CardHost.Pending.Reentry
import CardHost.Pending.Request
import CardHost.Proofs.Agenda
import CardHost.Proofs.Completions
import CardHost.Proofs.Entries
import CardHost.Proofs.Sessions
import CardHost.Proofs.Settling
import CardHost.Proofs.Shifts
import CardHost.Proofs.WaitingLine
import CardHost.Provider
import CardHost.Reader.Flags
import CardHost.Reader.Snapshot
import CardHost.ResultCode
import CardHost.Session
import CardHost.Settings
import CardHost.Simulation.Backend
import CardHost.Simulation.Bench
import CardHost.Simulation.Hall
import CardHost.Simulation.Native
import CardHost.Simulation.Terminal
import CardHost.Subscriptions
import CardHost.Text.Blank
import CardHost.Text.Escape
import CardHost.Text.Quoted
import CardHost.Text.Record
import CardHost.Text.Scan
import CardHost.Text.Unprintable
import CardHost.Toml.Date
import CardHost.Toml.Document
import CardHost.Toml.Number
import CardHost.Toml.Text
import CardHost.Toml.Tree
import CardHost.Watcher
import CardHost.WindowQueues
import CardHost.Proofs.Balance
import CardHost.Proofs.Runs
import CardHost.Proofs.Changes
import CardHost.Proofs.Wakes
import CardHost.Proofs.Callbacks
import CardHost.Proofs.Waits
import CardHost.Proofs.Nudges
import CardHost.Proofs.Turns
import CardHost.Proofs.Resync
import CardHost.Proofs.Scenes
import CardHost.Proofs.Attachments
import CardHost.Proofs.Connections
import CardHost.Proofs.Insertions
import CardHost.Proofs.Waiters
import CardHost.Proofs.Unserved
import CardHost.Proofs.Operations
import CardHost.Proofs.Rebinding
import CardHost.Proofs.ShareModes
import CardHost.Proofs.Sightings
import CardHost.Proofs.Handovers
import CardHost.Proofs.Hearings
import CardHost.Proofs.Swaps
import CardHost.Proofs.Absences
import CardHost.Proofs.Departures
import CardHost.Proofs.Logs
import CardHost.Proofs.Closings
import CardHost.Proofs.Overdue
import CardHost.Proofs.Duplicates
import CardHost.Proofs.Ledgers
import CardHost.Proofs.Baselines
import CardHost.Proofs.Perseverance
import CardHost.Proofs.Shutdowns
import CardHost.Proofs.EventStreams
import CardHost.Proofs.Custody
import CardHost.Proofs.Frames
import CardHost.Proofs.Faults
import CardHost.Proofs.Members
import CardHost.Proofs.Deliveries
import CardHost.Proofs.Reenumeration
import CardHost.Proofs.Careers
import CardHost.Proofs.Choices
import CardHost.Proofs.Reloads
import CardHost.Proofs.Audiences
import CardHost.Proofs.Inboxes
import CardHost.Proofs.RawCommands
import CardHost.Proofs.Exchanges
import CardHost.Proofs.Allowances
import CardHost.Proofs.Alternation
