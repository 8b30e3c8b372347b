import TestImpact.CommandLine.Run
import TestImpact.Engine.Service
import TestImpact.Main
import TestImpact.Proofs.Reach.Distance
import TestImpact.Proofs.Reach.Frontier
import TestImpact.Proofs.Reach.Discovery
import TestImpact.Proofs.Reach.Exact
import TestImpact.Proofs.Reach.Watched
import TestImpact.Proofs.Affected.Extent
import TestImpact.Proofs.Engine.Conversation
import TestImpact.Proofs.Engine.Runs
import TestImpact.Proofs.Engine.Targeted
import TestImpact.Proofs.Engine.Service
import TestImpact.Proofs.Engine.Cancellation
import TestImpact.Proofs.Engine.Fallback
import TestImpact.Proofs.SymbolGraph.Addition
import TestImpact.Proofs.SymbolGraph.Growth
import TestImpact.Proofs.SymbolGraph.Scan
import TestImpact.Proofs.SymbolGraph.Agreement
import TestImpact.Proofs.Engine.Keeping
import TestImpact.Proofs.Engine.Footprint
import TestImpact.Proofs.Affected.Comparison
import TestImpact.Proofs.Testing.Patterns
import TestImpact.Proofs.Engine.Exclusion
import TestImpact.Proofs.Engine.Coverage
import TestImpact.Proofs.Affected.Accounting
import TestImpact.Proofs.Affected.Shape
import TestImpact.Proofs.Engine.Reporting
import TestImpact.Proofs.Json.Faithful
import TestImpact.Proofs.Json.Record
import TestImpact.Proofs.Json.RoundTrip
import TestImpact.Proofs.Path.Joining
import TestImpact.Proofs.Text.ByteOrder
import TestImpact.Proofs.Text.Lossy
import TestImpact.Proofs.Go.Lookup
import TestImpact.Proofs.CommandLine.Affected
import TestImpact.Proofs.Text.Search
import TestImpact.Proofs.Go.Clauses
import TestImpact.Proofs.Go.Package
import TestImpact.Proofs.Go.Layout
import TestImpact.Proofs.Go.Imports
import TestImpact.Proofs.Go.Passing
import TestImpact.Proofs.Engine.Isolation
import TestImpact.Proofs.Reach.Deepening
import TestImpact.Proofs.Engine.Handover
import TestImpact.Proofs.Text.Trimming
import TestImpact.Proofs.EngineConfig.Depth
import TestImpact.Proofs.EngineConfig.Loading
import TestImpact.Proofs.SymbolGraph.Neighbours
import TestImpact.Proofs.Reach.Rounds
import TestImpact.Proofs.Text.Lowering
import TestImpact.Proofs.Go.Markers
import TestImpact.Proofs.Text.Spelling
import TestImpact.Proofs.Json.Spelling
import TestImpact.Proofs.Toml.Spelling
import TestImpact.Proofs.Toml.Rows
import TestImpact.Proofs.EngineConfig.Formats
import TestImpact.Proofs.Testing.Combination
import TestImpact.Proofs.Testing.Totals
import TestImpact.Proofs.CommandLine.Switches
import TestImpact.Proofs.CommandLine.Validation
