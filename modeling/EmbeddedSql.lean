import EmbeddedSql.CommandLine.Arguments
import EmbeddedSql.CommandLine.Commands
import EmbeddedSql.Config.Basic
import EmbeddedSql.Config.Decode
import EmbeddedSql.Config.Loader
import EmbeddedSql.Document
import EmbeddedSql.Editor.Decorations
import EmbeddedSql.Editor.Position
import EmbeddedSql.Editor.SemanticTokens
import EmbeddedSql.Highlights
import EmbeddedSql.Hint
import EmbeddedSql.Main
import EmbeddedSql.Proofs.Classification.Order
import EmbeddedSql.Proofs.Document.Lines
import EmbeddedSql.Proofs.Document.Ranges
import EmbeddedSql.Proofs.Document.Spans
import EmbeddedSql.Proofs.Document.Stacking
import EmbeddedSql.Proofs.Editor.Agreement
import EmbeddedSql.Proofs.Editor.Painting
import EmbeddedSql.Proofs.Editor.Picture
import EmbeddedSql.Proofs.Editor.Pieces
import EmbeddedSql.Proofs.Highlights.Composition
import EmbeddedSql.Proofs.Highlights.Exactness
import EmbeddedSql.Proofs.Highlights.Nesting
import EmbeddedSql.Proofs.Interpolation.Grammar
import EmbeddedSql.Proofs.Interpolation.Runs
import EmbeddedSql.Proofs.Literal.Places
import EmbeddedSql.Proofs.Literal.Quotes
import EmbeddedSql.Proofs.Literal.RoundTrip
import EmbeddedSql.Proofs.Server.LastUpdate
import EmbeddedSql.Proofs.Server.Runs
import EmbeddedSql.Proofs.Text.Cuts
import EmbeddedSql.Protocol.Notifications
import EmbeddedSql.Protocol.Requests
import EmbeddedSql.Report
import EmbeddedSql.Server.Basic
import EmbeddedSql.Server.Debouncer
import EmbeddedSql.Server.Service
import EmbeddedSql.Uri.Parser
import EmbeddedSql.Proofs.Server.Debouncing
import EmbeddedSql.Proofs.Server.Terms
import EmbeddedSql.Proofs.Server.Facets
import EmbeddedSql.Proofs.Server.Independence
import EmbeddedSql.Proofs.Config.Settings
import EmbeddedSql.Proofs.Config.Layering
import EmbeddedSql.Proofs.Text.Folding
import EmbeddedSql.Proofs.Text.Bytes
import EmbeddedSql.Proofs.Document.Index
import EmbeddedSql.Proofs.Literal.FlatScan
import EmbeddedSql.Proofs.Highlights.CaseBlindness
import EmbeddedSql.Proofs.Document.Stretches
import EmbeddedSql.Proofs.Literal.Contents
import EmbeddedSql.Proofs.Interpolation.Inertness
import EmbeddedSql.Proofs.Server.Refusal
import EmbeddedSql.Proofs.Server.Closing
import EmbeddedSql.Proofs.Interpolation.Partition
import EmbeddedSql.Proofs.Classification.Quoting
import EmbeddedSql.Proofs.Editor.Canvas
import EmbeddedSql.Proofs.Literal.Accounting
import EmbeddedSql.Proofs.Classification.Words
import EmbeddedSql.Proofs.Classification.Patterns
import EmbeddedSql.Proofs.Classification.Vocabulary
import EmbeddedSql.Proofs.Classification.Chains
import EmbeddedSql.Proofs.Classification.Names
import EmbeddedSql.Proofs.Classification.Numerals
import EmbeddedSql.Proofs.Classification.Parameters
import EmbeddedSql.Proofs.Region.Pairing
import EmbeddedSql.Proofs.Region.Markers
import EmbeddedSql.Proofs.Report.Lines
import EmbeddedSql.Proofs.Classification.Layers
import EmbeddedSql.Proofs.Classification.Edges
import EmbeddedSql.Proofs.Editor.ReadBack
import EmbeddedSql.Proofs.Literal.Onsets
import EmbeddedSql.Proofs.Editor.Coverage
