import MapQuery.Character.AgeTable
import MapQuery.Character.CategoryTable
import MapQuery.Character.Property
import MapQuery.Character.PropertyTable
import MapQuery.Character.Ranges
import MapQuery.Character.ScriptTable
import MapQuery.Compiler.Basic
import MapQuery.Compiler.Builtin
import MapQuery.Compiler.Reading
import MapQuery.Compiler.Registry
import MapQuery.Console.Demo
import MapQuery.Console.Elapsed
import MapQuery.Console.Program
import MapQuery.Console.Session
import MapQuery.Console.Typed
import MapQuery.DataSet.Basic
import MapQuery.DataSet.File
import MapQuery.DataSet.Handle
import MapQuery.Geometry.Coordinate
import MapQuery.Geometry.Measure
import MapQuery.Instant.Basic
import MapQuery.Instant.Civil
import MapQuery.Instant.Reader
import MapQuery.Json.Basic
import MapQuery.Json.Number
import MapQuery.Json.Quoted
import MapQuery.Json.Reader
import MapQuery.Json.Shape
import MapQuery.Json.Writer
import MapQuery.Main
import MapQuery.Number.Decimal
import MapQuery.Number.Double
import MapQuery.Number.Shortest
import MapQuery.Number.Whole
import MapQuery.Pattern.Atom
import MapQuery.Pattern.Basic
import MapQuery.Pattern.Bracket
import MapQuery.Pattern.Expr
import MapQuery.Pattern.Meaning
import MapQuery.Pattern.Reader
import MapQuery.Pattern.Report
import MapQuery.Pattern.Size
import MapQuery.Pattern.Source
import MapQuery.Pattern.Syntax
import MapQuery.Primitive.Basic
import MapQuery.Primitive.Kind
import MapQuery.Primitive.Tags
import MapQuery.Query.Basic
import MapQuery.Query.Copy
import MapQuery.Query.Evaluate
import MapQuery.Query.Failure
import MapQuery.Query.Inspected
import MapQuery.Query.Leaf
import MapQuery.Query.Operator
import MapQuery.Query.Shown
import MapQuery.Range
import MapQuery.Saved.Folder
import MapQuery.Saved.Searches
import MapQuery.Text.Ascii
import MapQuery.Text.Blank
import MapQuery.Text.CaseTable
import MapQuery.Text.Composed
import MapQuery.Text.CompositionTable
import MapQuery.Text.Lowercase
import MapQuery.Text.Normal
import MapQuery.Text.Quoted
import MapQuery.Token.Basic
import MapQuery.Token.Literal
import MapQuery.Token.Span
import MapQuery.Token.Tokenizer
import MapQuery.Proofs.Token.Tokens
import MapQuery.Proofs.Token.Operations
import MapQuery.Proofs.Token.Lexemes
import MapQuery.Proofs.Token.Layout
import MapQuery.Proofs.Token.Joined
import MapQuery.Proofs.Compiler.Reading
import MapQuery.Proofs.Compiler.Grammar
import MapQuery.Proofs.Compiler.Agreement
import MapQuery.Proofs.Compiler.Kinds
import MapQuery.Proofs.Compiler.Places
import MapQuery.Proofs.Compiler.Keywords
import MapQuery.Proofs.Compiler.Nesting
import MapQuery.Proofs.Compiler.Congruence
import MapQuery.Proofs.Compiler.Registry
import MapQuery.Proofs.Compiler.Enclosed
import MapQuery.Proofs.Compiler.Limit
import MapQuery.Proofs.Compiler.Composition
import MapQuery.Proofs.DataSet.Changes
import MapQuery.Proofs.DataSet.Consistent
import MapQuery.Proofs.DataSet.Inside
import MapQuery.Proofs.Query.Evaluation
import MapQuery.Proofs.Query.Rank
import MapQuery.Proofs.DataSet.Area
import MapQuery.Proofs.DataSet.Scanned
import MapQuery.Proofs.Query.Similar
import MapQuery.Proofs.DataSet.Content
import MapQuery.Proofs.DataSet.Order
import MapQuery.Proofs.Compiler.Registration
import MapQuery.Proofs.Token.Quoting
import MapQuery.Proofs.Query.Tag
import MapQuery.Proofs.Compiler.TagText
import MapQuery.Proofs.Query.Unplaced
import MapQuery.Proofs.Compiler.Blame
import MapQuery.Proofs.Console.Marks
import MapQuery.Proofs.Console.History
import MapQuery.Proofs.Json.Written
import MapQuery.Proofs.Saved.Reload
import MapQuery.Proofs.Console.Conversation
import MapQuery.Proofs.DataSet.Redefinition
import MapQuery.Proofs.Number.Numeral
import MapQuery.Proofs.Token.Words
import MapQuery.Proofs.Token.Ranges
import MapQuery.Proofs.Compiler.OneKey
import MapQuery.Proofs.Compiler.Ranges
import MapQuery.Proofs.Query.Forms
import MapQuery.Proofs.Query.Grouping
import MapQuery.Proofs.Query.Readable
import MapQuery.Proofs.Query.Modes
import MapQuery.Proofs.DataSet.Effect
import MapQuery.Proofs.Text.Marks
import MapQuery.Proofs.Text.Parts
import MapQuery.Proofs.Text.Composition
import MapQuery.Proofs.Text.Sigma
import MapQuery.Proofs.Text.Steady
import MapQuery.Proofs.Query.Search
import MapQuery.Proofs.Query.LetterCase
import MapQuery.Proofs.Query.NormalForm
import MapQuery.Proofs.Compiler.Timestamp
import MapQuery.Proofs.Pattern.Bare
import MapQuery.Proofs.Pattern.Follows
import MapQuery.Proofs.Pattern.Parts
import MapQuery.Proofs.Pattern.Sets
import MapQuery.Proofs.Pattern.Groups
import MapQuery.Proofs.Pattern.Whole
import MapQuery.Proofs.Pattern.Ends
import MapQuery.Proofs.Pattern.Modes
import MapQuery.Proofs.Query.KeyCase
import MapQuery.Proofs.Query.Place
import MapQuery.Proofs.Instant.Calendar
import MapQuery.Proofs.Instant.Reading
import MapQuery.Proofs.Instant.Spelling
import MapQuery.Proofs.Pattern.Literals
import MapQuery.Proofs.Query.Literals
import MapQuery.Proofs.Saved.Recent
import MapQuery.Proofs.DataSet.NodeCount
import MapQuery.Proofs.Number.Value
import MapQuery.Proofs.Number.Rounding
import MapQuery.Proofs.Number.Spellings
import MapQuery.Proofs.Query.Comparison
import MapQuery.Proofs.Geometry.Corners
import MapQuery.Proofs.DataSet.Rectangles
