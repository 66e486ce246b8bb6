import CodeNav.Analyzer.Lines
import CodeNav.CommandLine.Respond
import CodeNav.CommandLine.Snapshot
import CodeNav.Index.History
import CodeNav.Main
import CodeNav.Project.Pipeline
import CodeNav.Proofs.Findings
import CodeNav.Proofs.Index.Names
import CodeNav.Proofs.Index.Contents
import CodeNav.Proofs.Index.HistoryIndependence
import CodeNav.Proofs.Index.FileDefinitions
import CodeNav.Proofs.Index.Lookup
import CodeNav.Proofs.Analyzer
import CodeNav.Proofs.Index.Resolution
import CodeNav.Proofs.Occurrence
import CodeNav.Proofs.Workspace.DefinitionAt
import CodeNav.Proofs.Source.Offset
import CodeNav.Proofs.Syntax.Capture
import CodeNav.Proofs.Marks
import CodeNav.Proofs.Survey
import CodeNav.Proofs.Evaluation
import CodeNav.Proofs.RecordedUse
import CodeNav.Proofs.Syntax.Query
import CodeNav.Proofs.Syntax.Places
import CodeNav.Proofs.Syntax.Matching
import CodeNav.Proofs.Index.Displaced
import CodeNav.Proofs.Index.LastWriter
import CodeNav.Proofs.Listing
import CodeNav.Proofs.Project.Pipeline
import CodeNav.Proofs.Index.Reordering
import CodeNav.Proofs.Noted
import CodeNav.Proofs.Project.ProcessingOrder
import CodeNav.Proofs.Project.Schedule
import CodeNav.Proofs.Index.Locality
import CodeNav.Proofs.Workspace.Locality
import CodeNav.Proofs.Symbol.Identity
import CodeNav.Proofs.Index.Confinement
import CodeNav.Proofs.Workspace.Filled
import CodeNav.Proofs.Workspace.Confinement
import CodeNav.Proofs.Project.Isolation
import CodeNav.Proofs.Index.Totals
import CodeNav.Proofs.Project.Discovery
import CodeNav.Proofs.Project.Balance
import CodeNav.Proofs.Symbol.Injectivity
import CodeNav.Proofs.Index.Separation
import CodeNav.Proofs.Index.Partition
import CodeNav.Proofs.Project.Reindexing
import CodeNav.Proofs.Workspace.Spelling
import CodeNav.Proofs.Text.Cut
import CodeNav.Proofs.Symbol.RoundTrip
import CodeNav.Proofs.Symbol.Acceptance
import CodeNav.Proofs.Path.CanonicalForm
import CodeNav.Proofs.Index.Policy
import CodeNav.Proofs.Bindings
import CodeNav.Proofs.Grammar.ImportTarget
import CodeNav.Proofs.Grammar.NamedImport
import CodeNav.Proofs.Grammar.ModuleImport
import CodeNav.Proofs.Syntax.Captured
import CodeNav.Proofs.Syntax.Fits
import CodeNav.Proofs.Survey.Spans
import CodeNav.Proofs.Survey.Ranged
import CodeNav.Proofs.Grammar.Names
import CodeNav.Proofs.Grammar.Uses
import CodeNav.Proofs.Grammar.Coverage
import CodeNav.Proofs.Grammar.ImportStatement
import CodeNav.Proofs.Survey.LocalUses
import CodeNav.Proofs.Survey.Kept
import CodeNav.Proofs.Syntax.Yields
import CodeNav.Proofs.Syntax.Children
import CodeNav.Proofs.Grammar.Declaration
import CodeNav.Proofs.Grammar.Reading
import CodeNav.Proofs.Syntax.Holding
import CodeNav.Proofs.Grammar.Declarations.Python
import CodeNav.Proofs.Grammar.Declarations.TypeScript
import CodeNav.Proofs.Grammar.Declarations.Go
import CodeNav.Proofs.Grammar.Ranges
import CodeNav.Proofs.Grammar.ImportTable
import CodeNav.Proofs.Project.Discovered
import CodeNav.Proofs.Project.Repository
import CodeNav.Proofs.Survey.Qualified
import CodeNav.Proofs.FileSystem.Following
import CodeNav.Proofs.Project.RealPath
import CodeNav.Proofs.CommandLine.Arguments
import CodeNav.Proofs.CommandLine.Definition
