import StageChain.CommandLine.Cluster
import StageChain.CommandLine.Commands
import StageChain.CommandLine.Console
import StageChain.CommandLine.Terminal
import StageChain.CommandLine.Usage
import StageChain.Fault
import StageChain.Journal.Record
import StageChain.Journal.Setup
import StageChain.Journal.Template
import StageChain.Json.Reader
import StageChain.Json.Written
import StageChain.Main
import StageChain.Number.Double
import StageChain.Number.Numeral
import StageChain.Number.Rounded
import StageChain.Number.Shortest
import StageChain.Operation.Arguments
import StageChain.Operation.Construction
import StageChain.Operation.Descriptor
import StageChain.Operation.Op
import StageChain.Operation.Parameters
import StageChain.Path.Basic
import StageChain.Path.FileTree
import StageChain.Pipeline.Basic
import StageChain.Pipeline.Format
import StageChain.Pipeline.Wiring
import StageChain.Plan.Basic
import StageChain.Plan.Fusion
import StageChain.Proofs.Composition
import StageChain.Proofs.Configuration
import StageChain.Proofs.Encoding
import StageChain.Proofs.Ending
import StageChain.Proofs.Endpoints
import StageChain.Proofs.Execution
import StageChain.Proofs.Leasing
import StageChain.Proofs.Lifetime
import StageChain.Proofs.Meaning
import StageChain.Proofs.Memory
import StageChain.Proofs.Partition
import StageChain.Proofs.Protocol
import StageChain.Proofs.Rollback
import StageChain.Proofs.RunLaw
import StageChain.Proofs.Source
import StageChain.Proofs.Wiring
import StageChain.Reader
import StageChain.Recipe.Basic
import StageChain.Record
import StageChain.Run.Chain
import StageChain.Run.Draft
import StageChain.Run.Outcome
import StageChain.Session.Basic
import StageChain.Session.DryRun
import StageChain.Session.Instant
import StageChain.Session.Lease
import StageChain.Settings.Basic
import StageChain.Settings.Load
import StageChain.Storage.Basic
import StageChain.Table
import StageChain.Text.Blank
import StageChain.Text.CodeRange
import StageChain.Text.Hex
import StageChain.Text.PrintableTable
import StageChain.Text.Quoted
import StageChain.Text.Upper
import StageChain.Text.UpperTable
import StageChain.Text.Utf8
import StageChain.Text.Uuid
import StageChain.Text.Width
import StageChain.Text.WidthTable
import StageChain.Value.Basic
import StageChain.Value.Printed
import StageChain.Yaml.Cursor
import StageChain.Yaml.Document
import StageChain.Yaml.Node
import StageChain.Yaml.Scalar
import StageChain.Yaml.Token
import StageChain.Proofs.Minimality
import StageChain.Proofs.Reporting
import StageChain.Proofs.Simulation
import StageChain.Proofs.Isolation
import StageChain.Proofs.History
import StageChain.Proofs.Interleaving
import StageChain.Proofs.Flow
import StageChain.Proofs.Replay
import StageChain.Proofs.Names
import StageChain.Proofs.Tree
import StageChain.Proofs.Writing
import StageChain.Proofs.Mirror
import StageChain.Proofs.Making
import StageChain.Proofs.Catalogue
import StageChain.Proofs.Calls
import StageChain.Proofs.Overflow
import StageChain.Proofs.Joining
import StageChain.Proofs.Holding
import StageChain.Proofs.Loading
import StageChain.Proofs.Preview
import StageChain.Proofs.Rounding
import StageChain.Proofs.Shortest
import StageChain.Proofs.Numerals
import StageChain.Proofs.Nearest
import StageChain.Proofs.Transport
import StageChain.Proofs.Duration
import StageChain.Proofs.Deletion
import StageChain.Proofs.Sections
import StageChain.Proofs.Absence
import StageChain.Proofs.Precision
import StageChain.Proofs.Vocabulary
import StageChain.Proofs.Fields
import StageChain.Proofs.WellFormed
