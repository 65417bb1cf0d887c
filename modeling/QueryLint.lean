import QueryLint.OrderedMap
import QueryLint.Diagnostic
import QueryLint.Text.Containment
import QueryLint.Text.Lowercase
import QueryLint.Text.Quoted
import QueryLint.Text.Words
import QueryLint.Schema.Builder
import QueryLint.Schema.Join
import QueryLint.Schema.Search
import QueryLint.Schema.Summary
import QueryLint.Query.Check
import QueryLint.Json.Fault
import QueryLint.Json.Text
import QueryLint.Json.Numeral
import QueryLint.Json.Ignored
import QueryLint.Json.Record
import QueryLint.Json.Printer
import QueryLint.Json.Tree
import QueryLint.Schema.DocumentReader
import QueryLint.Schema.ModelFormat
import QueryLint.Diagnostic.Format
import QueryLint.Glob.Expand
import QueryLint.Toml.Document
import QueryLint.Text.Position
import QueryLint.Log
import QueryLint.Command.Run
import QueryLint.Command.Transcript
import QueryLint.Main
import QueryLint.Proofs.Text.Trimming
import QueryLint.Proofs.Text.Marking
import QueryLint.Proofs.Text.Readings
import QueryLint.Proofs.Query.Padding
import QueryLint.Proofs.Text.FirstParts
import QueryLint.Proofs.Query.Scans
import QueryLint.Proofs.Query.Marks
import QueryLint.Proofs.Text.BalancedTexts
import QueryLint.Proofs.Query.Parentheses
import QueryLint.Proofs.Query.Spans
import QueryLint.Proofs.Text.Tokens
import QueryLint.Proofs.Query.Identifiers
import QueryLint.Proofs.Query.Quiet
import QueryLint.Proofs.Query.Clauses
import QueryLint.Proofs.Query.Columns
import QueryLint.Proofs.Query.JoinQueries
import QueryLint.Proofs.Query.SuggestedJoins
import QueryLint.Proofs.InStep
import QueryLint.Proofs.Query.Order
import QueryLint.Proofs.Text.LikeWords
import QueryLint.Proofs.Text.Likeness
import QueryLint.Proofs.Query.LikeScans
import QueryLint.Proofs.Query.LikeMarks
import QueryLint.Proofs.Query.LikeFindings
import QueryLint.Proofs.Query.LikeChecks
import QueryLint.Proofs.Json.Mapping
import QueryLint.Proofs.Json.Spelling
import QueryLint.Proofs.Schema.Declarations
import QueryLint.Proofs.Schema.Building
import QueryLint.Proofs.Json.Reading
import QueryLint.Proofs.Json.Printing
import QueryLint.Proofs.Schema.RoundTrip
import QueryLint.Proofs.Json.Ignoring
import QueryLint.Proofs.Json.Fields
import QueryLint.Proofs.Schema.Spellings
import QueryLint.Proofs.Schema.Reports
import QueryLint.Proofs.Command.Sources
import QueryLint.Proofs.Command.Agreement
import QueryLint.Proofs.Command.Events
import QueryLint.Proofs.Command.FatalRuns
import QueryLint.Proofs.Query.Independence
import QueryLint.Proofs.Command.UnusableSchema
import QueryLint.Proofs.Command.Headlines
import QueryLint.Proofs.Command.Presentation
import QueryLint.Proofs.Json.Trees
import QueryLint.Proofs.Command.JsonReports
import QueryLint.Proofs.Query.Verdicts
import QueryLint.Proofs.Command.Configurations
import QueryLint.Proofs.Text.Runs
import QueryLint.Proofs.Text.Patterns
import QueryLint.Proofs.Query.TableNames
import QueryLint.Proofs.Query.SelectLists
import QueryLint.Proofs.Text.Scanning
import QueryLint.Proofs.Text.KeywordPatterns
import QueryLint.Proofs.Query.ColumnNames
import QueryLint.Proofs.Query.GroupedExpressions
import QueryLint.Proofs.Query.Conditions
import QueryLint.Proofs.Query.UnconditionedJoins
import QueryLint.Proofs.Query.Dangers
import QueryLint.Proofs.Schema.Joins
import QueryLint.Proofs.Text.ByteOrder
import QueryLint.Proofs.Schema.Relevance
import QueryLint.Proofs.Schema.LiteralMatches
import QueryLint.Proofs.Text.Lines
import QueryLint.Proofs.Command.Excerpts
import QueryLint.Proofs.Schema.KeyColumns
import QueryLint.Proofs.Schema.Enlargement
import QueryLint.Proofs.Query.Neighbours
import QueryLint.Proofs.Query.Omissions
import QueryLint.Proofs.Query.LargerSchemas
import QueryLint.Proofs.Files.Paths
import QueryLint.Proofs.Command.NearestConfigurations
import QueryLint.Proofs.Schema.Summaries
import QueryLint.Proofs.Schema.Lookups
import QueryLint.Proofs.Schema.References
