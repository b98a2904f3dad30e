import DiagramGraph.Cli.Arguments
import DiagramGraph.Cli.Convert
import DiagramGraph.Cli.Extract
import DiagramGraph.Cli.Generate
import DiagramGraph.Cli.Outcome
import DiagramGraph.Document.Basic
import DiagramGraph.Dot.Digraph
import DiagramGraph.Dot.Quote
import DiagramGraph.Dot.Writer
import DiagramGraph.Files.Path
import DiagramGraph.Files.Tree
import DiagramGraph.Graph.Basic
import DiagramGraph.Graph.Draft
import DiagramGraph.Graph.Rank
import DiagramGraph.Graph.Session
import DiagramGraph.Json.Display
import DiagramGraph.Json.Reader
import DiagramGraph.Json.Value
import DiagramGraph.Json.Writer
import DiagramGraph.Main
import DiagramGraph.Mermaid.ClassDiagram
import DiagramGraph.Mermaid.Declaration
import DiagramGraph.Mermaid.Edge
import DiagramGraph.Mermaid.Flowchart
import DiagramGraph.Mermaid.Glyph
import DiagramGraph.Mermaid.Label
import DiagramGraph.Mermaid.NodeToken
import DiagramGraph.Mermaid.Reader
import DiagramGraph.Mermaid.Relationship
import DiagramGraph.Mermaid.Style
import DiagramGraph.Mermaid.Writer
import DiagramGraph.Number.Binary64
import DiagramGraph.Number.Shortest
import DiagramGraph.Proofs.ArgumentTheorems
import DiagramGraph.Proofs.BatchTheorems
import DiagramGraph.Proofs.ClassLines
import DiagramGraph.Proofs.ClassMachine
import DiagramGraph.Proofs.ClassRoundTrip
import DiagramGraph.Proofs.ConvertTheorems
import DiagramGraph.Proofs.DeclarationGrammar
import DiagramGraph.Proofs.Deliveries
import DiagramGraph.Proofs.DotFaithful
import DiagramGraph.Proofs.DotLabels
import DiagramGraph.Proofs.DotNodes
import DiagramGraph.Proofs.DotReader
import DiagramGraph.Proofs.DraftTheorems
import DiagramGraph.Proofs.EdgeChains
import DiagramGraph.Proofs.EdgeGrammar
import DiagramGraph.Proofs.FileTheorems
import DiagramGraph.Proofs.FlowComposition
import DiagramGraph.Proofs.FlowHeader
import DiagramGraph.Proofs.FlowLines
import DiagramGraph.Proofs.FlowRoundTrip
import DiagramGraph.Proofs.GenerateTheorems
import DiagramGraph.Proofs.HandOver
import DiagramGraph.Proofs.InlineBodies
import DiagramGraph.Proofs.JsonRoundTrip
import DiagramGraph.Proofs.LabelContainment
import DiagramGraph.Proofs.LabelTheorems
import DiagramGraph.Proofs.Layout
import DiagramGraph.Proofs.NeededDialect
import DiagramGraph.Proofs.NodeTokens
import DiagramGraph.Proofs.OutputNames
import DiagramGraph.Proofs.PrinterDomain
import DiagramGraph.Proofs.ReaderInvariant
import DiagramGraph.Proofs.RelationshipGrammar
import DiagramGraph.Proofs.SessionTheorems
import DiagramGraph.Proofs.SnapshotTheorems
import DiagramGraph.Proofs.StableLabels
import DiagramGraph.Proofs.StatementSoundness
import DiagramGraph.Proofs.TextTheorems
import DiagramGraph.Proofs.TokenParts
import DiagramGraph.Proofs.TypedDocuments
import DiagramGraph.Proofs.Utf8Theorems
import DiagramGraph.Proofs.WriterTheorems
import DiagramGraph.Text.Basic
import DiagramGraph.Text.Digit
import DiagramGraph.Text.Lines
import DiagramGraph.Text.Printable
import DiagramGraph.Text.Quoted
import DiagramGraph.Text.Search
import DiagramGraph.Text.Utf8
import DiagramGraph.Text.Word
