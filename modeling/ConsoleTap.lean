import ConsoleTap.Arguments
import ConsoleTap.Connection
import ConsoleTap.Duration
import ConsoleTap.Exchange.Basic
import ConsoleTap.Exchange.Script
import ConsoleTap.Exchange.Step
import ConsoleTap.Exchange.Turn
import ConsoleTap.Fault
import ConsoleTap.Files.Fault
import ConsoleTap.Files.Tree
import ConsoleTap.Handshake
import ConsoleTap.Host
import ConsoleTap.Json.Numeral
import ConsoleTap.Json.Reader
import ConsoleTap.Json.Record
import ConsoleTap.Json.Stop
import ConsoleTap.Json.Value
import ConsoleTap.Json.Writer
import ConsoleTap.Log
import ConsoleTap.Log.File
import ConsoleTap.Log.Filter
import ConsoleTap.Number.Binary64
import ConsoleTap.Number.Shortest
import ConsoleTap.Print.Expansion
import ConsoleTap.Print.Node
import ConsoleTap.Print.Printout
import ConsoleTap.Print.Rendered
import ConsoleTap.Program
import ConsoleTap.Proofs.Exchange.Books
import ConsoleTap.Proofs.Exchange.Cause
import ConsoleTap.Proofs.Exchange.Closing
import ConsoleTap.Proofs.Exchange.Coherence
import ConsoleTap.Proofs.Exchange.Conservation
import ConsoleTap.Proofs.Exchange.Fate
import ConsoleTap.Proofs.Exchange.Frames
import ConsoleTap.Proofs.Exchange.History
import ConsoleTap.Proofs.Exchange.Lasting
import ConsoleTap.Proofs.Exchange.Move
import ConsoleTap.Proofs.Exchange.Muted
import ConsoleTap.Proofs.Exchange.Orderly
import ConsoleTap.Proofs.Exchange.Overtaking
import ConsoleTap.Proofs.Exchange.Progress
import ConsoleTap.Proofs.Exchange.Resolution
import ConsoleTap.Proofs.Exchange.Writing
import ConsoleTap.Proofs.Results
import ConsoleTap.Proofs.Run
import ConsoleTap.Proofs.Session.Arrivals
import ConsoleTap.Proofs.Session.Core
import ConsoleTap.Proofs.Session.Dispatch
import ConsoleTap.Proofs.Session.Drafts
import ConsoleTap.Proofs.Session.Move
import ConsoleTap.Proofs.Session.Opening
import ConsoleTap.Proofs.Session.Order
import ConsoleTap.Proofs.Session.Output
import ConsoleTap.Proofs.Session.Refinement
import ConsoleTap.Proofs.Session.Requests
import ConsoleTap.Proofs.Session.Sequential
import ConsoleTap.Proofs.Session.Undisturbed
import ConsoleTap.Session.Basic
import ConsoleTap.Session.Draft
import ConsoleTap.Session.Ending
import ConsoleTap.Session.Script
import ConsoleTap.Session.Step
import ConsoleTap.Session.Turn
import ConsoleTap.Settings.Basic
import ConsoleTap.Settings.Environment
import ConsoleTap.Settings.Rules
import ConsoleTap.Settings.Source
import ConsoleTap.Target.Message
import ConsoleTap.Target.RemoteObject
import ConsoleTap.Text.Alphanumeric
import ConsoleTap.Text.Blank
import ConsoleTap.Text.Bytes
import ConsoleTap.Text.CodePoints
import ConsoleTap.Text.Composed
import ConsoleTap.Text.Digits
import ConsoleTap.Text.Lines
import ConsoleTap.Text.Printable
import ConsoleTap.Text.Quoted
import ConsoleTap.Toml.Document
import ConsoleTap.Toml.Lexis
import ConsoleTap.Toml.Moment
import ConsoleTap.Toml.Numeral
import ConsoleTap.Toml.Table
import ConsoleTap.Toml.Value
import ConsoleTap.Url.Address
import ConsoleTap.Url.Address4
import ConsoleTap.Url.Address6
import ConsoleTap.Url.Domain
import ConsoleTap.Url.Domain.Direction
import ConsoleTap.Url.Domain.Joiner
import ConsoleTap.Url.Domain.Mapping
import ConsoleTap.Url.Host
import ConsoleTap.Url.Percent
import ConsoleTap.Url.Punycode
import ConsoleTap.Main
import ConsoleTap.Proofs.Exchange.Deadlines
import ConsoleTap.Proofs.Session.Places
import ConsoleTap.Proofs.Session.Punctual
import ConsoleTap.Proofs.Exchange.Cutoff
import ConsoleTap.Proofs.Exchange.Effort
import ConsoleTap.Proofs.Session.Settling
import ConsoleTap.Proofs.Session.Shown
import ConsoleTap.Proofs.Session.Teardown
import ConsoleTap.Proofs.Strewn
import ConsoleTap.Proofs.Exchange.Freshness
import ConsoleTap.Proofs.Exchange.WriteOrder
import ConsoleTap.Proofs.Exchange.Finality
import ConsoleTap.Proofs.Exchange.Noise
import ConsoleTap.Proofs.Exchange.Hearing
import ConsoleTap.Proofs.Session.Numbering
import ConsoleTap.Proofs.Session.Ending
import ConsoleTap.Proofs.Session.Finality
import ConsoleTap.Proofs.Session.Noise
import ConsoleTap.Proofs.Session.Blanks
import ConsoleTap.Proofs.Session.Inert
import ConsoleTap.Proofs.Settings.References
import ConsoleTap.Proofs.Settings.Substitution
import ConsoleTap.Proofs.Print.Expansion
import ConsoleTap.Proofs.Print.Fetches
import ConsoleTap.Proofs.Print.Depth
import ConsoleTap.Proofs.Exchange.TableOrder
import ConsoleTap.Proofs.Exchange.Timers
import ConsoleTap.Proofs.Json.Members
import ConsoleTap.Proofs.Print.Answers
import ConsoleTap.Proofs.Print.Mappings
import ConsoleTap.Proofs.Print.Previews
import ConsoleTap.Proofs.Print.Failures
import ConsoleTap.Proofs.Text.Lines
import ConsoleTap.Proofs.Print.Calls
import ConsoleTap.Proofs.Session.Answers
import ConsoleTap.Proofs.Json.Records
import ConsoleTap.Proofs.Json.Messages
import ConsoleTap.Proofs.Target.Forms
import ConsoleTap.Proofs.Print.Diagnostics
import ConsoleTap.Proofs.Target.Rearrangement
import ConsoleTap.Proofs.Session.Rearrangement
import ConsoleTap.Proofs.Target.RoundTrip
import ConsoleTap.Proofs.Json.Distinct
import ConsoleTap.Proofs.Target.ReplyErrors
import ConsoleTap.Proofs.Exchange.Replies
import ConsoleTap.Proofs.Settings.Unset
import ConsoleTap.Proofs.Exchange.Agreement
import ConsoleTap.Proofs.Files.Directories
import ConsoleTap.Proofs.Program.Refusal
import ConsoleTap.Proofs.Session.BrokenOutput
import ConsoleTap.Proofs.Session.Unheard
import ConsoleTap.Proofs.Exchange.Notices
import ConsoleTap.Proofs.Exchange.Relogged
import ConsoleTap.Proofs.Exchange.Withdrawals
import ConsoleTap.Proofs.Arguments.Spelling
import ConsoleTap.Proofs.Arguments.Values
import ConsoleTap.Proofs.Toml.Distinct
import ConsoleTap.Proofs.Settings.Limits
import ConsoleTap.Proofs.Program.Limits
import ConsoleTap.Proofs.Connection
import ConsoleTap.Proofs.Handshake.Parts
import ConsoleTap.Proofs.Handshake.Reading
import ConsoleTap.Proofs.Text.Ascii
import ConsoleTap.Proofs.Text.Front
import ConsoleTap.Proofs.Url.Address
import ConsoleTap.Proofs.Url.Host
import ConsoleTap.Proofs.Url.Repairs
