import FlowAtlas.Main
import FlowAtlas.Proofs.Dominance.Ancestry
import FlowAtlas.Proofs.Dominance.Sweep
import FlowAtlas.Proofs.Dominance.Settle
import FlowAtlas.Proofs.Dominance.Search
import FlowAtlas.Proofs.Dominance.Immediate
import FlowAtlas.Proofs.DomTree.Levels
import FlowAtlas.Proofs.Dominance.Tree
import FlowAtlas.Proofs.Bytecode.Flow
import FlowAtlas.Proofs.Bytecode.Starts
import FlowAtlas.Proofs.Bytecode.Blocks
import FlowAtlas.Proofs.Bytecode.Dominators
import FlowAtlas.Proofs.Outcome
import FlowAtlas.Proofs.Dominance.Strays
import FlowAtlas.Proofs.Graph.Valid
import FlowAtlas.Proofs.DomTree.Hanging
import FlowAtlas.Proofs.View.Sound
import FlowAtlas.Proofs.Text.Numeral
import FlowAtlas.Proofs.Document.Loaded
import FlowAtlas.Proofs.View.Provided
import FlowAtlas.Proofs.Bytecode.Boundaries
import FlowAtlas.Proofs.DomTree.Descent
import FlowAtlas.Proofs.DomTree.Outline
import FlowAtlas.Proofs.DomTree.Preorder
import FlowAtlas.Proofs.DomTree.Faithful
import FlowAtlas.Proofs.DomTree.Layers
import FlowAtlas.Proofs.Listing.Extents
import FlowAtlas.Proofs.Listing.Runs
import FlowAtlas.Proofs.Listing.Lines
import FlowAtlas.Proofs.Listing.Colours
import FlowAtlas.Proofs.Document.Writer
import FlowAtlas.Proofs.Document.RoundTrip
import FlowAtlas.Proofs.Dot.Reader
import FlowAtlas.Proofs.Dot.Spelling
import FlowAtlas.Proofs.Dot.ReadBack
import FlowAtlas.Proofs.Dot.Texts
import FlowAtlas.Proofs.Dot.Drawings
import FlowAtlas.Proofs.Dot.FlowEdges
import FlowAtlas.Proofs.Dot.Labels
import FlowAtlas.Proofs.View.TreeDrawings
import FlowAtlas.Proofs.Files
import FlowAtlas.Proofs.World
import FlowAtlas.Proofs.CommandLine.Output
import FlowAtlas.Proofs.Document.Refused
import FlowAtlas.Proofs.Bytecode.Objects
import FlowAtlas.Proofs.Target
import FlowAtlas.Proofs.CommandLine.Reports
import FlowAtlas.Proofs.Dominance.Precedence
import FlowAtlas.Proofs.Document.Trees
import FlowAtlas.Proofs.Document.Moderate
import FlowAtlas.Proofs.Bytecode.Statements
import FlowAtlas.Proofs.Graph.Links
import FlowAtlas.Proofs.Drawing.Save
import FlowAtlas.Proofs.Listing.Blocks
import FlowAtlas.Proofs.Document.Integer
import FlowAtlas.Proofs.Document.Layout
import FlowAtlas.Proofs.Document.Described
import FlowAtlas.Proofs.Dominance.DepthFirst
import FlowAtlas.Proofs.Dominance.Record
import FlowAtlas.Proofs.Dot.Escaping
import FlowAtlas.Proofs.Document.Operand
