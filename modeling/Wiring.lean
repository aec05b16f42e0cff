import Wiring.CommandLine.Arguments
import Wiring.CommandLine.Execution
import Wiring.CommandLine.Messages
import Wiring.Container.Collection
import Wiring.Container.Inspection
import Wiring.Container.Loading
import Wiring.Container.Lookup
import Wiring.Container.Registration
import Wiring.Declaration.Lifetime
import Wiring.Declaration.Module
import Wiring.Declaration.Service
import Wiring.Declaration.TypeName
import Wiring.Declaration.Verb
import Wiring.Diagnostic
import Wiring.Expansion.Declare
import Wiring.Expansion.Derive
import Wiring.Failure
import Wiring.Files.Canonical
import Wiring.Files.Namespace
import Wiring.Files.Path
import Wiring.Files.Relative
import Wiring.Generated.Basic
import Wiring.Generated.Companion
import Wiring.Generated.Facade
import Wiring.Generated.Names
import Wiring.Generated.Registrations
import Wiring.Generation.Cache
import Wiring.Generation.Pass
import Wiring.Generation.References
import Wiring.Generation.Units
import Wiring.Grammar.Code
import Wiring.Grammar.Error
import Wiring.Grammar.Expr
import Wiring.Grammar.Extent
import Wiring.Grammar.Item
import Wiring.Grammar.Lexer
import Wiring.Grammar.Literal
import Wiring.Grammar.LiteralValue
import Wiring.Grammar.Parse
import Wiring.Grammar.Path
import Wiring.Grammar.Pattern
import Wiring.Grammar.Reader
import Wiring.Grammar.Statement
import Wiring.Grammar.SyntaxTree
import Wiring.Grammar.Text
import Wiring.Grammar.Token
import Wiring.Grammar.Type
import Wiring.Grammar.View
import Wiring.Grammar.Whole
import Wiring.Json.Decode
import Wiring.Json.Descriptors
import Wiring.Json.Discovery
import Wiring.Json.Facts
import Wiring.Json.Read
import Wiring.Json.Registrations
import Wiring.Json.Value
import Wiring.Log
import Wiring.Main
import Wiring.Plan.Consolidation
import Wiring.Plan.DependencyGraph
import Wiring.Plan.Operations
import Wiring.Plan.Resolution
import Wiring.Project.Run
import Wiring.Project.Surroundings
import Wiring.Proofs.Container.Batches
import Wiring.Proofs.Container.Chains
import Wiring.Proofs.Container.CrossWiring
import Wiring.Proofs.Container.Forwards
import Wiring.Proofs.Container.HookOrder
import Wiring.Proofs.Container.Independence
import Wiring.Proofs.Container.Loading
import Wiring.Proofs.Container.Providers
import Wiring.Proofs.Container.Uniqueness
import Wiring.Proofs.Container.Walks
import Wiring.Proofs.Expansion.Agreement
import Wiring.Proofs.Expansion.Dependencies
import Wiring.Proofs.Expansion.Forms
import Wiring.Proofs.Expansion.Handlers
import Wiring.Proofs.Expansion.Integers
import Wiring.Proofs.Expansion.Lists
import Wiring.Proofs.Expansion.Paths
import Wiring.Proofs.Expansion.ReplayedForms
import Wiring.Proofs.Expansion.Replays
import Wiring.Proofs.Expansion.Settled
import Wiring.Proofs.Expansion.Spans
import Wiring.Proofs.Expansion.Splitting
import Wiring.Proofs.Expansion.Values
import Wiring.Proofs.Files.Canonical
import Wiring.Proofs.Generated.Blame
import Wiring.Proofs.Generated.Companions
import Wiring.Proofs.Generated.Decoder
import Wiring.Proofs.Generated.Decoding
import Wiring.Proofs.Generated.Glue
import Wiring.Proofs.Generated.Lookups
import Wiring.Proofs.Generated.Relocation
import Wiring.Proofs.Generated.UnitNames
import Wiring.Proofs.Generation.Cache
import Wiring.Proofs.Generation.Completeness
import Wiring.Proofs.Generation.Constructions
import Wiring.Proofs.Generation.Inputs
import Wiring.Proofs.Generation.Isolation
import Wiring.Proofs.Generation.Passes
import Wiring.Proofs.Generation.ProviderOrders
import Wiring.Proofs.Generation.Relevance
import Wiring.Proofs.Generation.Written
import Wiring.Proofs.Grammar.Assignments
import Wiring.Proofs.Grammar.Climbing
import Wiring.Proofs.Grammar.Lines
import Wiring.Proofs.Grammar.Numerals
import Wiring.Proofs.Grammar.Onward
import Wiring.Proofs.Grammar.Operands
import Wiring.Proofs.Grammar.PathTypes
import Wiring.Proofs.Grammar.Productions
import Wiring.Proofs.Grammar.Reading
import Wiring.Proofs.Grammar.Spacing
import Wiring.Proofs.Grammar.StringLiteral
import Wiring.Proofs.Grammar.Words
import Wiring.Proofs.Json.Codec
import Wiring.Proofs.Json.Members
import Wiring.Proofs.Json.RoundTrip
import Wiring.Proofs.Outcome
import Wiring.Proofs.Plan.Consolidation
import Wiring.Proofs.Plan.DependencyGraph
import Wiring.Proofs.Plan.Facades
import Wiring.Proofs.Plan.Flattening
import Wiring.Proofs.Plan.LoadOrder
import Wiring.Proofs.Plan.Piecewise
import Wiring.Proofs.Plan.Resolution
import Wiring.Proofs.Plan.ServiceOrder
import Wiring.Proofs.Source.Accounting
import Wiring.Proofs.Source.Declarations
import Wiring.Proofs.Source.FeatureOrders
import Wiring.Proofs.Source.Imports
import Wiring.Proofs.Source.Isolation
import Wiring.Proofs.Source.Nesting
import Wiring.Proofs.Source.ParameterNames
import Wiring.Proofs.Source.Places
import Wiring.Proofs.Source.PlainPaths
import Wiring.Proofs.Source.Qualification
import Wiring.Proofs.Source.Redistribution
import Wiring.Proofs.Source.References
import Wiring.Proofs.Source.Spellings
import Wiring.Proofs.Source.Visit
import Wiring.Proofs.Source.WrittenTypes
import Wiring.Proofs.Text.Segments
import Wiring.Proofs.Walk.Closure
import Wiring.Proofs.Walk.Runs
import Wiring.Proofs.Workspace.Listing
import Wiring.Proofs.Workspace.Paths
import Wiring.Proofs.Workspace.Places
import Wiring.Proofs.Workspace.ProgramEntry
import Wiring.Proofs.Workspace.Trees
import Wiring.Proofs.Workspace.Writing
import Wiring.Settings.Basic
import Wiring.Settings.Layers
import Wiring.Settings.Raw
import Wiring.Settings.Variables
import Wiring.Source.Analysis
import Wiring.Source.Arguments
import Wiring.Source.Attribute
import Wiring.Source.Discovery
import Wiring.Source.Facts
import Wiring.Source.Qualified
import Wiring.Source.Scope
import Wiring.Text.Decimal
import Wiring.Text.Hexadecimal
import Wiring.Text.Hidden
import Wiring.Text.Identifier
import Wiring.Text.Lowercase
import Wiring.Text.Quoted
import Wiring.Text.Ranges
import Wiring.Text.Segments
import Wiring.Text.Shortest
import Wiring.Toml.Document
import Wiring.Toml.Number
import Wiring.Toml.Text
import Wiring.Toml.Value
import Wiring.Walk
import Wiring.Workspace.Basic
import Wiring.Workspace.Change
import Wiring.Workspace.Node
import Wiring.Workspace.Output
import Wiring.Workspace.Sources
