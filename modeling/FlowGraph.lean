import FlowGraph.Text.Blank
import FlowGraph.Text.Caseless
import FlowGraph.Text.Pieces
import FlowGraph.Table
import FlowGraph.CompileError
import FlowGraph.Markup.Element
import FlowGraph.Markup.Chars
import FlowGraph.Markup.Fault
import FlowGraph.Markup.Scan
import FlowGraph.Markup.Node
import FlowGraph.Markup.Name
import FlowGraph.Markup.Reference
import FlowGraph.Markup.Tag
import FlowGraph.Markup.Document
import FlowGraph.Decimal.Basic
import FlowGraph.Workflow.Kind
import FlowGraph.Workflow.Basic
import FlowGraph.Workflow.Lint
import FlowGraph.Log
import FlowGraph.Connection
import FlowGraph.Workflow.Dependency
import FlowGraph.Workflow.Registry
import FlowGraph.Workflow.Compile
import FlowGraph.Data.Basic
import FlowGraph.Json.Writer
import FlowGraph.Data.Yaml
import FlowGraph.Workflow.Stored
import FlowGraph.Text.Unprintable
import FlowGraph.Text.Quoted
import FlowGraph.Decimal.Shortest
import FlowGraph.Json.Numeral
import FlowGraph.Json.Tree
import FlowGraph.Json.Decode
import FlowGraph.Workflow.Restore
import FlowGraph.Replica
import FlowGraph.Storage.Path
import FlowGraph.Storage.Basic
import FlowGraph.Storage.FileTree
import FlowGraph.Loading
import FlowGraph.DocumentReader
import FlowGraph.CommandLine.Arguments
import FlowGraph.CommandLine.Run
import FlowGraph.Main
import FlowGraph.Proofs.Json.Atoms
import FlowGraph.Proofs.Json.ReadWrite
import FlowGraph.Proofs.Json.Records
import FlowGraph.Proofs.Steps
import FlowGraph.Proofs.Table
import FlowGraph.Proofs.Json.Fields
import FlowGraph.Proofs.Workflow.Extension
import FlowGraph.Proofs.Workflow.Rules
import FlowGraph.Proofs.Workflow.Refusals
import FlowGraph.Proofs.Workflow.Members
import FlowGraph.Proofs.Workflow.StoredForm
import FlowGraph.Proofs.Compile.Acceptance
import FlowGraph.Proofs.Compile.Children
import FlowGraph.Proofs.Compile.Declaration
import FlowGraph.Proofs.Compile.Dependencies
import FlowGraph.Proofs.Compile.Logging
import FlowGraph.Proofs.Workflow.RoundTrip
import FlowGraph.Proofs.Compile.Prefixes
import FlowGraph.Proofs.Compile.Reordering
import FlowGraph.Proofs.Compile.Warnings
import FlowGraph.Proofs.Compile.Unfinished
import FlowGraph.Proofs.Workflow.Growth
import FlowGraph.Proofs.Workflow.Handles
import FlowGraph.Proofs.Workflow.Links
import FlowGraph.Proofs.Workflow.Visibility
import FlowGraph.Proofs.Compile.Interleaving
import FlowGraph.Proofs.Text.Trimming
import FlowGraph.Proofs.Compile.OperandLists
import FlowGraph.Proofs.Workflow.Findings
import FlowGraph.Proofs.Compile.Findings
import FlowGraph.Proofs.Loading
import FlowGraph.Proofs.DocumentReader
import FlowGraph.Proofs.Replica.Selection
import FlowGraph.Proofs.Markup.Attributes
import FlowGraph.Proofs.Replica.RoundTrip
import FlowGraph.Proofs.Decimal.Numerals
import FlowGraph.Proofs.Decimal.Rounding
import FlowGraph.Proofs.Decimal.Bounds
import FlowGraph.Proofs.Workflow.Workloads
import FlowGraph.Proofs.Compile.Fields
import FlowGraph.Proofs.Markup.Elements
import FlowGraph.Proofs.CommandLine.Groups
import FlowGraph.Proofs.CommandLine.Requests
import FlowGraph.Proofs.Storage.Laws
import FlowGraph.Proofs.Storage.Path
import FlowGraph.Proofs.CommandLine.Effects
