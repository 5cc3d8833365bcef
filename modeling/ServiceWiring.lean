import ServiceWiring.Text.Blank
import ServiceWiring.Text.Split
import ServiceWiring.Text.Word
import ServiceWiring.Text.Quoted
import ServiceWiring.Text.Bytes
import ServiceWiring.Decimal.Binary64
import ServiceWiring.Decimal.Shortest
import ServiceWiring.Decimal.Written
import ServiceWiring.Keyed
import ServiceWiring.Json.Basic
import ServiceWiring.Json.Syntax
import ServiceWiring.Json.Number
import ServiceWiring.Json.Reader
import ServiceWiring.Json.Printer
import ServiceWiring.Json.Record
import ServiceWiring.Argument.Tree
import ServiceWiring.Argument.Resolution
import ServiceWiring.Argument.Written
import ServiceWiring.Service.Parts
import ServiceWiring.Service.Descriptor
import ServiceWiring.Service.Directive
import ServiceWiring.Service.Order
import ServiceWiring.Container.Builder
import ServiceWiring.Container.Memory
import ServiceWiring.Container.Emission
import ServiceWiring.Path
import ServiceWiring.RawPath
import ServiceWiring.Class.Naming
import ServiceWiring.Class.Definition
import ServiceWiring.Class.Table
import ServiceWiring.Class.Members
import ServiceWiring.Class.Bytes
import ServiceWiring.Class.Method
import ServiceWiring.Class.Declaration
import ServiceWiring.Class.Source
import ServiceWiring.Service.DocBlock
import ServiceWiring.Service.Closing
import ServiceWiring.Service.Declared
import ServiceWiring.Error
import ServiceWiring.Service.Build
import ServiceWiring.Config.Basic
import ServiceWiring.Files.Glob
import ServiceWiring.Config.Validation
import ServiceWiring.Logging
import ServiceWiring.Files.Tree
import ServiceWiring.Files.System
import ServiceWiring.Files.Walk
import ServiceWiring.Files.Scanner
import ServiceWiring.Discovery.Candidate
import ServiceWiring.Class.Index
import ServiceWiring.Discovery.Stats
import ServiceWiring.Discovery.Collection
import ServiceWiring.Discovery.Pipeline
import ServiceWiring.Discovery.Run
import ServiceWiring.Text.Lower
import ServiceWiring.Text.Digits
import ServiceWiring.Toml.Syntax
import ServiceWiring.Toml.Quoted
import ServiceWiring.Toml.Scalar
import ServiceWiring.Toml.Table
import ServiceWiring.Toml.Value
import ServiceWiring.Toml.Document
import ServiceWiring.Config.Settings
import ServiceWiring.Config.Environment
import ServiceWiring.Config.Coercion
import ServiceWiring.Config.Load
import ServiceWiring.Toml.Printer
import ServiceWiring.Config.Save
import ServiceWiring.Discovery.Plan
import ServiceWiring.CommandLine.Arguments
import ServiceWiring.CommandLine.Report
import ServiceWiring.CommandLine.Run
import ServiceWiring.Main
import ServiceWiring.Proofs.Container.Handover
import ServiceWiring.Proofs.Discovery.Runs
import ServiceWiring.Proofs.Class.Table
import ServiceWiring.Proofs.Discovery.EnvironmentGate
import ServiceWiring.Proofs.Discovery.Outcome
import ServiceWiring.Proofs.Class.Body
import ServiceWiring.Proofs.Class.DocComment
import ServiceWiring.Proofs.Class.Layout
import ServiceWiring.Proofs.Argument.Described
import ServiceWiring.Proofs.Class.Index
import ServiceWiring.Proofs.Class.Placement
import ServiceWiring.Proofs.Discovery.Unresolved
import ServiceWiring.Proofs.Json.Atoms
import ServiceWiring.Proofs.Json.Lexemes
import ServiceWiring.Proofs.Service.Directive
import ServiceWiring.Proofs.Service.Annotations
import ServiceWiring.Proofs.Discovery.Tally
import ServiceWiring.Proofs.Argument.Resolution
import ServiceWiring.Proofs.Text.Bytes
import ServiceWiring.Proofs.Files.Components
import ServiceWiring.Proofs.Files.Lookup
import ServiceWiring.Proofs.Files.Pruning
import ServiceWiring.Proofs.Discovery.Isolation
import ServiceWiring.Proofs.Discovery.Directives
import ServiceWiring.Proofs.Discovery.ModuleOrder
import ServiceWiring.Proofs.Service.Declared
import ServiceWiring.Proofs.Service.Provenance
import ServiceWiring.Proofs.Text.LineEnds
import ServiceWiring.Proofs.Class.LineEnds
import ServiceWiring.Proofs.Class.Returns
import ServiceWiring.Proofs.Service.LineEnds
import ServiceWiring.Proofs.Files.Skeleton
import ServiceWiring.Proofs.Discovery.LineEnds
import ServiceWiring.Proofs.Class.FirstLevel
import ServiceWiring.Proofs.Files.Writing
import ServiceWiring.Proofs.Toml.Quoted
import ServiceWiring.Proofs.Toml.Document
import ServiceWiring.Proofs.Config.Written
import ServiceWiring.Proofs.Config.Loading
import ServiceWiring.Proofs.Config.Saved
import ServiceWiring.Proofs.Json.Shape
import ServiceWiring.Proofs.Json.Printing
import ServiceWiring.Proofs.Service.Denotable
import ServiceWiring.Proofs.CommandLine.Stages
import ServiceWiring.Proofs.CommandLine.Run
import ServiceWiring.Proofs.Service.Acceptance
import ServiceWiring.Proofs.Class.Attachment
import ServiceWiring.Proofs.Class.Sections
import ServiceWiring.Proofs.Service.Verdict
import ServiceWiring.Proofs.Files.Distinct
import ServiceWiring.Proofs.Discovery.Collisions
import ServiceWiring.Proofs.Class.Prefixes
import ServiceWiring.Proofs.Class.Comments
import ServiceWiring.Proofs.Argument.Passes
import ServiceWiring.Proofs.Argument.References
import ServiceWiring.Proofs.Config.Resaved
import ServiceWiring.Proofs.Class.Insertion
import ServiceWiring.Proofs.Json.Derivation
import ServiceWiring.Proofs.Service.Parentheses
import ServiceWiring.Proofs.Class.Bytes
import ServiceWiring.Proofs.Files.Depth
import ServiceWiring.Proofs.Files.Erasure
import ServiceWiring.Proofs.Files.Trail
import ServiceWiring.Proofs.Files.Exclusion
