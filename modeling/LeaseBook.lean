import LeaseBook.Clock
import LeaseBook.CommandLine.Command
import LeaseBook.CommandLine.Options
import LeaseBook.CommandLine.Program
import LeaseBook.CommandLine.Table
import LeaseBook.CommandLine.Usage
import LeaseBook.Config.Basic
import LeaseBook.Config.EnvFile
import LeaseBook.Config.Environment
import LeaseBook.Config.Session
import LeaseBook.Fault
import LeaseBook.Files
import LeaseBook.Journal.Basic
import LeaseBook.Journal.Calendar
import LeaseBook.Journal.Entry
import LeaseBook.Journal.File
import LeaseBook.Journal.Level
import LeaseBook.Journal.Note
import LeaseBook.Json.Printer
import LeaseBook.Json.Reader
import LeaseBook.Lease
import LeaseBook.Ledger.Basic
import LeaseBook.Ledger.Call
import LeaseBook.Ledger.Offer
import LeaseBook.Ledger.Operation
import LeaseBook.Ledger.Refusal
import LeaseBook.Ledger.Request
import LeaseBook.Main
import LeaseBook.Message.Client
import LeaseBook.Message.Handling
import LeaseBook.Message.Kind
import LeaseBook.Message.Reply
import LeaseBook.Net.Address
import LeaseBook.Net.Address6
import LeaseBook.Net.Facts
import LeaseBook.Net.Hardware
import LeaseBook.Net.Subnet
import LeaseBook.Number.Binary64
import LeaseBook.Number.Integer
import LeaseBook.Number.Power
import LeaseBook.Number.Shortest
import LeaseBook.Pool.Basic
import LeaseBook.Pool.Building
import LeaseBook.Proofs.Bound
import LeaseBook.Proofs.Effect
import LeaseBook.Proofs.Exclusion
import LeaseBook.Proofs.Granting
import LeaseBook.Proofs.History
import LeaseBook.Proofs.Invariant
import LeaseBook.Proofs.Renewal
import LeaseBook.Proofs.Roster
import LeaseBook.Proofs.Run
import LeaseBook.Proofs.Store
import LeaseBook.Proofs.Sweeping
import LeaseBook.Roster
import LeaseBook.Scenario
import LeaseBook.Text.Blank
import LeaseBook.Text.Cell
import LeaseBook.Text.Digit
import LeaseBook.Text.Glyph
import LeaseBook.Text.Hex
import LeaseBook.Text.Line
import LeaseBook.Text.Path
import LeaseBook.Text.Printable
import LeaseBook.Text.Quoted
import LeaseBook.Text.Raw
import LeaseBook.Text.Similar
import LeaseBook.Text.Split
import LeaseBook.Text.Terminal
import LeaseBook.Text.Upper
import LeaseBook.Text.Utf8
import LeaseBook.Text.Wrap
import LeaseBook.Value.Agreement
import LeaseBook.Value.Basic
import LeaseBook.Value.Reading
import LeaseBook.Value.Shown
import LeaseBook.Proofs.Assignable
import LeaseBook.Proofs.Clearing
import LeaseBook.Proofs.Declining
import LeaseBook.Proofs.Failing
import LeaseBook.Proofs.Reconfiguring
import LeaseBook.Proofs.Searching
import LeaseBook.Proofs.Dispatch
import LeaseBook.Proofs.Lending
import LeaseBook.Proofs.Repeating
import LeaseBook.Proofs.Replaying
import LeaseBook.Proofs.Observing
import LeaseBook.Proofs.Expiring
import LeaseBook.Proofs.Shifting
import LeaseBook.Proofs.Commuting
import LeaseBook.Proofs.Walking
import LeaseBook.Proofs.Veiling
import LeaseBook.Proofs.Exhausting
import LeaseBook.Proofs.Spelling
import LeaseBook.Proofs.Echoing
import LeaseBook.Proofs.Deciding
import LeaseBook.Proofs.Choosing
import LeaseBook.Proofs.Replying
import LeaseBook.Proofs.Omitting
import LeaseBook.Proofs.Extent
import LeaseBook.Proofs.Reloading
import LeaseBook.Proofs.Containing
import LeaseBook.Proofs.Reserving
import LeaseBook.Proofs.Indexing
import LeaseBook.Proofs.Advancing
import LeaseBook.Proofs.Reading
import LeaseBook.Proofs.Recognizing
import LeaseBook.Proofs.Seeding
import LeaseBook.Proofs.Itemizing
