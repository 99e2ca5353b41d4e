import Cyclomatic.Calendar
import Cyclomatic.Class
import Cyclomatic.Class.Method
import Cyclomatic.Class.Statement
import Cyclomatic.CommandLine
import Cyclomatic.CommandLine.Help
import Cyclomatic.CommandLine.Switch
import Cyclomatic.CommandLine.Word
import Cyclomatic.Console
import Cyclomatic.Console.Markup
import Cyclomatic.Console.Table
import Cyclomatic.Console.Terminal
import Cyclomatic.Disk.Access
import Cyclomatic.Disk.Fault
import Cyclomatic.Disk.Memory
import Cyclomatic.Disk.Sources
import Cyclomatic.Disk.Tree
import Cyclomatic.Double
import Cyclomatic.Double.Decimal
import Cyclomatic.Json
import Cyclomatic.Json.Literal
import Cyclomatic.Json.Render
import Cyclomatic.Keyed
import Cyclomatic.Listing
import Cyclomatic.Log
import Cyclomatic.Log.Event
import Cyclomatic.Log.Measure
import Cyclomatic.Main
import Cyclomatic.Menu
import Cyclomatic.Metric
import Cyclomatic.Path
import Cyclomatic.Project
import Cyclomatic.Project.Criterion
import Cyclomatic.Project.Index
import Cyclomatic.Project.Scan
import Cyclomatic.Project.Search
import Cyclomatic.Proofs.Outline
import Cyclomatic.Proofs.Token.Pieces
import Cyclomatic.Proofs.Token.Spelling
import Cyclomatic.Proofs.Token.Tiling
import Cyclomatic.Reading.Body
import Cyclomatic.Reading.File
import Cyclomatic.Reading.Imports
import Cyclomatic.Reading.Member
import Cyclomatic.Reading.Tape
import Cyclomatic.Report
import Cyclomatic.Session
import Cyclomatic.Settings
import Cyclomatic.Settings.Amount
import Cyclomatic.Template
import Cyclomatic.Template.Place
import Cyclomatic.Text.Alphanumeric
import Cyclomatic.Text.Blank
import Cyclomatic.Text.Capitals
import Cyclomatic.Text.Casing
import Cyclomatic.Text.Digit
import Cyclomatic.Text.Integer
import Cyclomatic.Text.Lowercase
import Cyclomatic.Text.Missing
import Cyclomatic.Text.Printable
import Cyclomatic.Text.Quoted
import Cyclomatic.Text.Ranges
import Cyclomatic.Text.Uppercase
import Cyclomatic.Text.Utf8
import Cyclomatic.Token
import Cyclomatic.Token.Head
import Cyclomatic.Token.Keyword
import Cyclomatic.Token.Profile
import Cyclomatic.Token.Scan
import Cyclomatic.Proofs.Outline.Scan
import Cyclomatic.Proofs.Outline.Body
import Cyclomatic.Proofs.Outline.RoundTrip
import Cyclomatic.Proofs.Reading.Nesting
import Cyclomatic.Proofs.Reading.Tally
import Cyclomatic.Proofs.Project.Index
import Cyclomatic.Proofs.Project.Intake
import Cyclomatic.Proofs.Keyed
import Cyclomatic.Proofs.Class.Dependencies
import Cyclomatic.Proofs.Reading.Completion
import Cyclomatic.Proofs.Reading.Imports
import Cyclomatic.Proofs.Reading.RealNames
import Cyclomatic.Proofs.Reading.TopLevel
import Cyclomatic.Proofs.Reading.ImportOrder
import Cyclomatic.Proofs.Reading.MemberText
import Cyclomatic.Proofs.Reading.Mentions
import Cyclomatic.Proofs.Reading.TextOrder
import Cyclomatic.Proofs.Token.Sorts
import Cyclomatic.Proofs.Token.Calls
import Cyclomatic.Proofs.Token.Lookahead
import Cyclomatic.Proofs.Token.Breaks
import Cyclomatic.Proofs.Token.Printed
import Cyclomatic.Proofs.Reading.MemberNames
import Cyclomatic.Proofs.Reading.Lookahead
import Cyclomatic.Proofs.Token.Lines
import Cyclomatic.Proofs.Reading.Origins
import Cyclomatic.Proofs.Project.StatementLines
import Cyclomatic.Proofs.Project.Ranking
import Cyclomatic.Proofs.Listing
import Cyclomatic.Proofs.Report
import Cyclomatic.Proofs.Menu.Dialogue
import Cyclomatic.Proofs.Session
import Cyclomatic.Proofs.Reading.Place
import Cyclomatic.Proofs.Reading.Modifiers
import Cyclomatic.Proofs.Reading.Parameters
import Cyclomatic.Proofs.Reading.MatchArms
import Cyclomatic.Proofs.Reading.ReturnTypes
import Cyclomatic.Proofs.Reading.Attributes
import Cyclomatic.Proofs.Token.Literals
import Cyclomatic.Proofs.Metric
import Cyclomatic.Proofs.Reading.Counts
import Cyclomatic.Proofs.Class.Metrics
import Cyclomatic.Proofs.Report.Consistency
import Cyclomatic.Proofs.Text.Lowercase
import Cyclomatic.Proofs.Project.Search
import Cyclomatic.Proofs.CommandLine.Precedence
import Cyclomatic.Proofs.Json.Text
import Cyclomatic.Proofs.Log.Trace
import Cyclomatic.Proofs.Project.Trace
import Cyclomatic.Proofs.Text.Integer
import Cyclomatic.Proofs.Text.Utf8
import Cyclomatic.Proofs.Disk.Tree
import Cyclomatic.Proofs.Disk.Sources
import Cyclomatic.Proofs.Console.Markup
import Cyclomatic.Proofs.Console.Escaped
import Cyclomatic.Proofs.Console.Terminal
import Cyclomatic.Proofs.Console.Answers
import Cyclomatic.Proofs.Console
import Cyclomatic.Proofs.Class.Growth
