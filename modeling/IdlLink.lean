import IdlLink.Command.Arguments
import IdlLink.Command.Run
import IdlLink.Command.Units
import IdlLink.Files.Expansion
import IdlLink.Files.Lookup
import IdlLink.Files.Pattern
import IdlLink.Files.Sources
import IdlLink.Files.Tree
import IdlLink.Files.Writing
import IdlLink.Json.Failure
import IdlLink.Json.Node
import IdlLink.Json.Numeral
import IdlLink.Json.Quoted
import IdlLink.Json.Reader
import IdlLink.Json.Record
import IdlLink.Json.SyntaxError
import IdlLink.Json.Tagged
import IdlLink.Json.Token
import IdlLink.Json.Value
import IdlLink.Linked.Basic
import IdlLink.Linked.Writer
import IdlLink.Main
import IdlLink.Number.Binary64
import IdlLink.Number.Digits
import IdlLink.Number.Shortest
import IdlLink.OrderedMap
import IdlLink.Remaining
import IdlLink.ResolveError
import IdlLink.Schema.Basic
import IdlLink.Schema.Reader
import IdlLink.Schema.Writer
import IdlLink.Scope
import IdlLink.Settings
import IdlLink.SourcePath
import IdlLink.Sources
import IdlLink.Symbol
import IdlLink.Text.CaseMapping
import IdlLink.Text.CaseTable
import IdlLink.Text.Casing
import IdlLink.Text.EscapeTable
import IdlLink.Text.Pieces
import IdlLink.Text.Quoted
import IdlLink.Text.Utf8
import IdlLink.Workspace.Basic
import IdlLink.Workspace.Check
import IdlLink.Workspace.Definition
import IdlLink.Workspace.Destination
import IdlLink.Workspace.Includes
import IdlLink.Workspace.Link
import IdlLink.Proofs.Denotation
import IdlLink.Proofs.Following
import IdlLink.Proofs.History
import IdlLink.Proofs.Overlay
import IdlLink.Proofs.Closure
import IdlLink.Proofs.Loaded
import IdlLink.Proofs.Checking
import IdlLink.Proofs.Linking
import IdlLink.Proofs.Extension
import IdlLink.Proofs.Entities
import IdlLink.Proofs.Readding
import IdlLink.Proofs.Reading
import IdlLink.Proofs.Cycles
import IdlLink.Proofs.Failing
import IdlLink.Proofs.Reporting
import IdlLink.Proofs.Paths
import IdlLink.Proofs.Reaching
import IdlLink.Proofs.Rearranging
import IdlLink.Proofs.Destinations
import IdlLink.Proofs.Refusals
import IdlLink.Proofs.Lexing
import IdlLink.Proofs.Documents
import IdlLink.Proofs.Taking
import IdlLink.Proofs.RoundTrip
import IdlLink.Proofs.Commands
import IdlLink.Proofs.Declaring
import IdlLink.Proofs.Naming
import IdlLink.Proofs.Colliding
import IdlLink.Proofs.Grammar
import IdlLink.Proofs.Values
import IdlLink.Proofs.Forms
import IdlLink.Proofs.Composing
import IdlLink.Proofs.Locating
import IdlLink.Proofs.Offending
import IdlLink.Proofs.Respelling
import IdlLink.Proofs.Spelling
import IdlLink.Proofs.Appending
import IdlLink.Proofs.Trailing
import IdlLink.Proofs.Printing
import IdlLink.Proofs.Numbering
import IdlLink.Proofs.Canonical
import IdlLink.Proofs.Capitals
