import DdlTree.Text
import DdlTree.Json.Basic
import DdlTree.Json.Document
import DdlTree.NodeKind
import DdlTree.Span
import DdlTree.Feature.Override
import DdlTree.Feature.Change
import DdlTree.Session.Settings
import DdlTree.Options
import DdlTree.Expr
import DdlTree.Script
import DdlTree.Node.Production
import DdlTree.Render.Writer
import DdlTree.Node.Walk
import DdlTree.Copy
import DdlTree.Outline
import DdlTree.Dump
import DdlTree.Node.Edit
import DdlTree.Proofs.Tree
import DdlTree.Proofs.Reachable
import DdlTree.Proofs.WellFormed
import DdlTree.Proofs.Acceptance
import DdlTree.Proofs.Production
import DdlTree.Proofs.Invariant
import DdlTree.Proofs.Copy
import DdlTree.Proofs.Numeral
import DdlTree.Proofs.Token
import DdlTree.Proofs.Grammar
import DdlTree.Proofs.RenderExpr
import DdlTree.Proofs.RenderStatement
import DdlTree.Proofs.Tells
import DdlTree.Proofs.Unambiguous
import DdlTree.Proofs.Renderable
import DdlTree.Proofs.Confinement
import DdlTree.Proofs.Arguments
import DdlTree.Proofs.Parts
import DdlTree.Proofs.Equivalence
import DdlTree.Proofs.Gate
import DdlTree.Proofs.Erase
import DdlTree.Proofs.Copier
import DdlTree.Proofs.JsonText
import DdlTree.Proofs.Dump
import DdlTree.Proofs.EraseProduction
import DdlTree.Proofs.RenderRelabel
import DdlTree.Proofs.EraseCopy
import DdlTree.Proofs.Positions
import DdlTree.Proofs.Lineage
import DdlTree.Proofs.Run
import DdlTree.Proofs.Writer
import DdlTree.Proofs.Script
import DdlTree.Proofs.Outside
import DdlTree.Proofs.Parentheses
import DdlTree.Proofs.IndexColumns
import DdlTree.Proofs.CopyWalk
import DdlTree.Proofs.Culprit
import DdlTree.Proofs.Ancestry
import DdlTree.Proofs.Traversal
import DdlTree.Proofs.FeatureHistory
import DdlTree.Proofs.DepthLimit
import DdlTree.Proofs.OutlineLines
import DdlTree.Proofs.KeyColumns
import DdlTree.Proofs.Blame
import DdlTree.Proofs.Schema
import DdlTree.Proofs.Reading
import DdlTree.Proofs.Refusal
import DdlTree.Proofs.Frame
import DdlTree.Proofs.Composition
import DdlTree.Proofs.OptionHistory
import DdlTree.Proofs.QuoteAll
import DdlTree.Proofs.TypeParameters
import DdlTree.Proofs.DottedName
import DdlTree.Proofs.NumeralPattern
