import TextBoundary.Benchmark
import TextBoundary.Blank
import TextBoundary.Break
import TextBoundary.Break.Grapheme
import TextBoundary.Break.Sentence
import TextBoundary.Break.Word
import TextBoundary.BreakTest
import TextBoundary.Casefold
import TextBoundary.Cluster
import TextBoundary.CodePoint
import TextBoundary.CodePoint.Details
import TextBoundary.Configuration
import TextBoundary.Cursor
import TextBoundary.Files.Input
import TextBoundary.Files.Path
import TextBoundary.Files.Tree
import TextBoundary.GeneralCategory
import TextBoundary.GraphemeBreak
import TextBoundary.Host
import TextBoundary.Host.Glob
import TextBoundary.Json
import TextBoundary.Json.Reader
import TextBoundary.Kind
import TextBoundary.Listing.Plain
import TextBoundary.Listing.RecordJson
import TextBoundary.Main
import TextBoundary.Mask
import TextBoundary.Number.Binary64
import TextBoundary.Number.Digits
import TextBoundary.Number.Literal
import TextBoundary.Number.Shortest
import TextBoundary.Program.Arguments
import TextBoundary.Program.Outcome
import TextBoundary.Program.Request
import TextBoundary.Program.Run
import TextBoundary.Program.Switch
import TextBoundary.Proofs.Vocabulary
import TextBoundary.Quoted
import TextBoundary.Segment
import TextBoundary.Segment.Filter
import TextBoundary.SentenceBreak
import TextBoundary.Text
import TextBoundary.TextError
import TextBoundary.Tokenizer.Builtin
import TextBoundary.Tokenizer.Creation
import TextBoundary.Tokenizer.Error
import TextBoundary.Tokenizer.Reason
import TextBoundary.Tokenizer.Registry
import TextBoundary.Tokenizer.Run
import TextBoundary.Tokenizer.Token
import TextBoundary.Tokenizer.TokenJson
import TextBoundary.Tokenizer.Value
import TextBoundary.Toml
import TextBoundary.Toml.Document
import TextBoundary.Toml.Outline
import TextBoundary.Toml.Scalar
import TextBoundary.Toml.Text
import TextBoundary.Toml.Token
import TextBoundary.Unicode.FoldData
import TextBoundary.Unicode.GeneralData
import TextBoundary.Unicode.GraphemeData
import TextBoundary.Unicode.RunTable
import TextBoundary.Unicode.SentenceData
import TextBoundary.Unicode.VisibilityData
import TextBoundary.Unicode.WordData
import TextBoundary.Utf8
import TextBoundary.WordBreak
import TextBoundary.Proofs.Pattern
import TextBoundary.Proofs.RuleSet
import TextBoundary.Proofs.CursorLaws
import TextBoundary.Proofs.Scan
import TextBoundary.Proofs.Walk
import TextBoundary.Proofs.GraphemeRules
import TextBoundary.Proofs.GraphemeBoundaries
import TextBoundary.Proofs.Extenders
import TextBoundary.Proofs.SentenceRules
import TextBoundary.Proofs.SentenceBoundaries
import TextBoundary.Proofs.WordBoundaries
import TextBoundary.Proofs.WordRules
import TextBoundary.Proofs.Positions
import TextBoundary.Proofs.Parts
import TextBoundary.Proofs.Tiling
import TextBoundary.Proofs.Listings
import TextBoundary.Proofs.Safety
import TextBoundary.Proofs.ClusterSlice
import TextBoundary.Proofs.UnitsAgree
import TextBoundary.Proofs.RegistryHistory
import TextBoundary.Proofs.RegistryRuns
import TextBoundary.Proofs.StaleHandles
import TextBoundary.Proofs.Concatenation
import TextBoundary.Proofs.ListingsAgree
import TextBoundary.Proofs.WrappedHandles
import TextBoundary.Proofs.TokenGroups
import TextBoundary.Proofs.Utf8Bytes
import TextBoundary.Proofs.Nesting
import TextBoundary.Proofs.WordTokens
import TextBoundary.Proofs.SliceIndices
import TextBoundary.Proofs.FoldTables
import TextBoundary.Proofs.ReportStreams
import TextBoundary.Proofs.CollectedReports
import TextBoundary.Proofs.HandleStreams
import TextBoundary.Proofs.FunctionValues
import TextBoundary.Proofs.RefusingSinks
import TextBoundary.Proofs.FoldedTokens
import TextBoundary.Proofs.ColocatedTexts
import TextBoundary.Proofs.CollectorOptions
import TextBoundary.Proofs.FoldSearch
import TextBoundary.Proofs.FoldedTexts
import TextBoundary.Proofs.BlankFields
import TextBoundary.Proofs.HexWords
import TextBoundary.Proofs.BreakTestLines
import TextBoundary.Proofs.BreakTestRuns
import TextBoundary.Proofs.WrappedLines
import TextBoundary.Proofs.ExpandedTexts
import TextBoundary.Proofs.ResolvedFiles
import TextBoundary.Proofs.BreakTestFormat
import TextBoundary.Proofs.PrintedCodePoints
import TextBoundary.Proofs.FilterLists
import TextBoundary.Proofs.CursorRuns
import TextBoundary.Proofs.RunSearch
import TextBoundary.Proofs.CategoryTables
