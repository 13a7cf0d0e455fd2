import Revocation.Base64Url
import Revocation.Binary64
import Revocation.Binary64.Shortest
import Revocation.Binding
import Revocation.Binding.Wire
import Revocation.Bytes
import Revocation.CommandLine
import Revocation.CommandLine.CheckBinding
import Revocation.CommandLine.Command
import Revocation.CommandLine.Options
import Revocation.CommandLine.Refresh
import Revocation.CommandLine.Source
import Revocation.Console.Emoji
import Revocation.Console.Literal
import Revocation.Console.Literal.Expression
import Revocation.Console.Literal.Fault
import Revocation.Console.Literal.Grammar
import Revocation.Console.Literal.Grammar.Brackets
import Revocation.Console.Literal.Grammar.Call
import Revocation.Console.Literal.Grammar.Parameters
import Revocation.Console.Literal.Grammar.Words
import Revocation.Console.Literal.Reader
import Revocation.Console.Literal.Token
import Revocation.Console.Markup
import Revocation.Console.Panel
import Revocation.Console.Style
import Revocation.Delta
import Revocation.Delta.Wire
import Revocation.Element
import Revocation.Encoding
import Revocation.Failure
import Revocation.FileStore
import Revocation.Hex
import Revocation.Http
import Revocation.Http.Address
import Revocation.Http.Domain
import Revocation.Http.Domain.Characters
import Revocation.Http.Domain.Label
import Revocation.Http.Host
import Revocation.Http.Status
import Revocation.IndexSet
import Revocation.Json
import Revocation.Json.Printer
import Revocation.Json.Reader
import Revocation.Ledger
import Revocation.Ledger.Remote
import Revocation.Main
import Revocation.Malformed
import Revocation.Modulus
import Revocation.Numeral
import Revocation.Record
import Revocation.Registry
import Revocation.Registry.Credential
import Revocation.Retry
import Revocation.Retry.Trouble
import Revocation.Sha2
import Revocation.Tails
import Revocation.Tails.File
import Revocation.Tails.Remote
import Revocation.Text.Case
import Revocation.Text.Composition
import Revocation.Text.Decimal
import Revocation.Text.Direction
import Revocation.Text.Percent
import Revocation.Text.Printable
import Revocation.Text.Punycode
import Revocation.Text.Quoted
import Revocation.Text.Ranges
import Revocation.Text.Width
import Revocation.Text.Word
import Revocation.Text.Words
import Revocation.Witness
import Revocation.Witness.Wire
import Revocation.Proofs.Residue
import Revocation.Proofs.Session
import Revocation.Proofs.Source
import Revocation.Proofs.Run
import Revocation.Proofs.Chronicle
import Revocation.Proofs.Recompute
import Revocation.Proofs.Refresh
import Revocation.Proofs.Wire
import Revocation.Proofs.Remote
import Revocation.Proofs.Serving
import Revocation.Proofs.RemoteRefresh
import Revocation.Proofs.JsonDocument
import Revocation.Proofs.Retention
import Revocation.Proofs.Lookup
import Revocation.Proofs.Composition
import Revocation.Proofs.Fetching
import Revocation.Proofs.Batch
import Revocation.Proofs.Decision
import Revocation.Proofs.EventLog
import Revocation.Proofs.Published
import Revocation.Proofs.Route
import Revocation.Proofs.Grouping
import Revocation.Proofs.Retrying
import Revocation.Proofs.RemoteHistory
import Revocation.Proofs.Boundary
import Revocation.Proofs.Assignment
import Revocation.Proofs.Issuing
import Revocation.Proofs.EntryCache
import Revocation.Proofs.Loading
import Revocation.Proofs.RefreshCommand
import Revocation.Proofs.RefreshedCredential
import Revocation.Proofs.Markup
import Revocation.Proofs.Refusal
import Revocation.Proofs.ExitStatus
import Revocation.Proofs.ContentHash
import Revocation.Proofs.TailsFile
import Revocation.Proofs.RoundTrip
import Revocation.Proofs.Denotation
import Revocation.Proofs.CheckReport
import Revocation.Proofs.Creation
import Revocation.Proofs.ElementText
import Revocation.Proofs.Regrouping
import Revocation.Proofs.Batching
import Revocation.Proofs.Powers
import Revocation.Proofs.Drawing
import Revocation.Proofs.Independence
import Revocation.Proofs.Attempts
import Revocation.Proofs.Storage
import Revocation.Proofs.WrittenTails
