import FeatureLint.Command
import FeatureLint.Command.Arguments
import FeatureLint.Command.Help
import FeatureLint.Command.Run
import FeatureLint.Comment
import FeatureLint.Config
import FeatureLint.Config.Load
import FeatureLint.Disk
import FeatureLint.Dump
import FeatureLint.Dump.Load
import FeatureLint.Glob
import FeatureLint.Glob.Expand
import FeatureLint.Issue
import FeatureLint.Json.Printer
import FeatureLint.Json.Reader
import FeatureLint.Json.Record
import FeatureLint.Json.Skip
import FeatureLint.Json.Value
import FeatureLint.Line
import FeatureLint.Line.Json
import FeatureLint.Main
import FeatureLint.Path
import FeatureLint.Proofs.Anchoring
import FeatureLint.Proofs.Ascent
import FeatureLint.Proofs.BreakOff
import FeatureLint.Proofs.BuildOutput
import FeatureLint.Proofs.ByteOrder
import FeatureLint.Proofs.ClassContinuation
import FeatureLint.Proofs.Coloring
import FeatureLint.Proofs.CommentForms
import FeatureLint.Proofs.Continuation
import FeatureLint.Proofs.Discovery
import FeatureLint.Proofs.DumpForms
import FeatureLint.Proofs.Exemption
import FeatureLint.Proofs.Expansion
import FeatureLint.Proofs.FileOrder
import FeatureLint.Proofs.GroupContinuation
import FeatureLint.Proofs.Growth
import FeatureLint.Proofs.Gutter
import FeatureLint.Proofs.Initialization
import FeatureLint.Proofs.Layout
import FeatureLint.Proofs.LineForms
import FeatureLint.Proofs.LookBack
import FeatureLint.Proofs.Matching
import FeatureLint.Proofs.NonInterference
import FeatureLint.Proofs.Numerals
import FeatureLint.Proofs.PathSpelling
import FeatureLint.Proofs.PatternSegments
import FeatureLint.Proofs.RangeSearch
import FeatureLint.Proofs.Reading
import FeatureLint.Proofs.RecordForms
import FeatureLint.Proofs.Relevance
import FeatureLint.Proofs.ReportOrder
import FeatureLint.Proofs.Resolution
import FeatureLint.Proofs.RoundTrip
import FeatureLint.Proofs.Shift
import FeatureLint.Proofs.Skipping
import FeatureLint.Proofs.SourceLines
import FeatureLint.Proofs.Spelling
import FeatureLint.Proofs.StableSort
import FeatureLint.Proofs.Suppression
import FeatureLint.Proofs.Tally
import FeatureLint.Proofs.TokenRange
import FeatureLint.Proofs.Tree
import FeatureLint.Proofs.Validation
import FeatureLint.Proofs.Verbosity
import FeatureLint.Proofs.Walk
import FeatureLint.Proofs.WholeValues
import FeatureLint.Regex
import FeatureLint.Regex.Class
import FeatureLint.Regex.Escape
import FeatureLint.Regex.Flags
import FeatureLint.Regex.Parser
import FeatureLint.Regex.Size
import FeatureLint.Report
import FeatureLint.Rule
import FeatureLint.Scan
import FeatureLint.Text.Escaped
import FeatureLint.Text.Style
import FeatureLint.Text.Width
import FeatureLint.Token
import FeatureLint.Token.Stream
import FeatureLint.Unicode.CategoryTable
import FeatureLint.Unicode.CodeSet
import FeatureLint.Unicode.Folding
import FeatureLint.Unicode.FoldingTable
import FeatureLint.Unicode.Property
import FeatureLint.Unicode.PropertyTable
import FeatureLint.Unicode.ScriptTable
