import CallReach.Analysis.Basic
import CallReach.Analysis.Log
import CallReach.Analysis.Report
import CallReach.Command.Arguments
import CallReach.Command.Run
import CallReach.Command.Trouble
import CallReach.Failure
import CallReach.Files.Gather
import CallReach.Files.Package
import CallReach.Files.Tree
import CallReach.ForStd.List
import CallReach.Granularity
import CallReach.Graph.Basic
import CallReach.Graph.Classify
import CallReach.Graph.Closure
import CallReach.Graph.Digraph
import CallReach.Graph.EdgeMap
import CallReach.Graph.Module
import CallReach.Graph.Reach
import CallReach.Graph.Render
import CallReach.Graph.Search
import CallReach.Graph.Witness
import CallReach.Json.Basic
import CallReach.Json.Parser
import CallReach.Json.Program
import CallReach.Log
import CallReach.Main
import CallReach.Path
import CallReach.Pattern.Basic
import CallReach.Pattern.CharClass
import CallReach.Pattern.Parser
import CallReach.Program
import CallReach.Proofs.ByteOrder
import CallReach.Proofs.Walks
import CallReach.Provider
import CallReach.Settings.Basic
import CallReach.Settings.File
import CallReach.Source.Body
import CallReach.Source.Grammar.Expression
import CallReach.Source.Grammar.File
import CallReach.Source.Grammar.Goal
import CallReach.Source.Grammar.Item
import CallReach.Source.Grammar.Path
import CallReach.Source.Grammar.Pattern
import CallReach.Source.Grammar.Statement
import CallReach.Source.Grammar.Type
import CallReach.Source.Imports
import CallReach.Source.Index
import CallReach.Source.Lexeme
import CallReach.Source.Lexer
import CallReach.Source.Outline
import CallReach.Source.Reader
import CallReach.Source.Scope
import CallReach.Source.Token
import CallReach.Source.Unit
import CallReach.Text.Blank
import CallReach.Text.Case
import CallReach.Text.Category
import CallReach.Text.CharSet
import CallReach.Text.Identifier
import CallReach.Text.Lowercase
import CallReach.Text.Property
import CallReach.Text.Script
import CallReach.Toml.Basic
import CallReach.Toml.Parser
import CallReach.Toml.Scanner
import CallReach.Proofs.SearchInvariant
import CallReach.Proofs.SearchCorrect
import CallReach.Proofs.ReachCorrect
import CallReach.Proofs.GraphCorrect
import CallReach.Proofs.WitnessCorrect
import CallReach.Proofs.AnalysisCorrect
import CallReach.Proofs.ReachAgreement
import CallReach.Proofs.AnalysisMonotone
import CallReach.Proofs.GraphGrowth
import CallReach.Proofs.AnalysisOrder
import CallReach.Proofs.ClosureNames
import CallReach.Proofs.BodyWalk
import CallReach.Proofs.BodyNames
import CallReach.Proofs.PathSegments
import CallReach.Proofs.IndexCorrect
import CallReach.Proofs.InlineModules
import CallReach.Proofs.ItemReading
import CallReach.Proofs.LinkOrder
import CallReach.Proofs.PathResolution
import CallReach.Proofs.ListedFiles
import CallReach.Proofs.ClosureNesting
import CallReach.Proofs.PackageReport
import CallReach.Proofs.ClosureLinking
import CallReach.Proofs.AnalysisNarrowing
import CallReach.Proofs.FileLocations
import CallReach.Proofs.CommandEffects
import CallReach.Proofs.ModuleAccount
import CallReach.Proofs.KeywordPaths
import CallReach.Proofs.ImportTrees
import CallReach.Proofs.LinkedCalls
import CallReach.Proofs.PathLocation
import CallReach.Proofs.BodyComposition
import CallReach.Proofs.ReferencePlaces
import CallReach.Proofs.DrawingReading
import CallReach.Proofs.PathOrder
import CallReach.Proofs.GatheredFiles
import CallReach.Proofs.JsonReading
import CallReach.Proofs.ProgramDocuments
import CallReach.Proofs.SearchLoop
import CallReach.Proofs.ShortNames
import CallReach.Proofs.CommaLists
