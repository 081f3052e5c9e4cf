import OperatorPeg.Diagnostics.Basic
import OperatorPeg.Diagnostics.Render
import OperatorPeg.Engine.Event
import OperatorPeg.Engine.Expression
import OperatorPeg.Engine.Failure
import OperatorPeg.Engine.Match
import OperatorPeg.Engine.Parse
import OperatorPeg.Engine.State
import OperatorPeg.Engine.Trace
import OperatorPeg.Grammar.Ast
import OperatorPeg.Grammar.Compile
import OperatorPeg.Grammar.Language
import OperatorPeg.Grammar.Lower
import OperatorPeg.Grammar.Read
import OperatorPeg.Grammar.Validate
import OperatorPeg.Pattern.Basic
import OperatorPeg.Pattern.Build
import OperatorPeg.Pattern.Display
import OperatorPeg.Pattern.Rules
import OperatorPeg.Proofs.AfterTheEnd
import OperatorPeg.Proofs.Balance
import OperatorPeg.Proofs.Balance.Context
import OperatorPeg.Proofs.Balance.Loading
import OperatorPeg.Proofs.Balance.Mirroring
import OperatorPeg.Proofs.BestFailure
import OperatorPeg.Proofs.Bounded
import OperatorPeg.Proofs.Building
import OperatorPeg.Proofs.ByReference
import OperatorPeg.Proofs.Calls
import OperatorPeg.Proofs.Conformance
import OperatorPeg.Proofs.Course
import OperatorPeg.Proofs.Cursors
import OperatorPeg.Proofs.Cycles
import OperatorPeg.Proofs.Derivation
import OperatorPeg.Proofs.Dumps
import OperatorPeg.Proofs.EnoughLayers
import OperatorPeg.Proofs.Faithful
import OperatorPeg.Proofs.FirstAbort
import OperatorPeg.Proofs.Grammar.AnyLanguage
import OperatorPeg.Proofs.Grammar.Base
import OperatorPeg.Proofs.Grammar.Checks
import OperatorPeg.Proofs.Grammar.Compiled
import OperatorPeg.Proofs.Grammar.Exactness
import OperatorPeg.Proofs.Grammar.Findings
import OperatorPeg.Proofs.Grammar.Layout
import OperatorPeg.Proofs.Grammar.Leaves
import OperatorPeg.Proofs.Grammar.Lowering
import OperatorPeg.Proofs.Grammar.Outcomes
import OperatorPeg.Proofs.Grammar.Parses
import OperatorPeg.Proofs.Grammar.Parsing
import OperatorPeg.Proofs.Grammar.ParsingRules
import OperatorPeg.Proofs.Grammar.Printable
import OperatorPeg.Proofs.Grammar.Printing
import OperatorPeg.Proofs.Grammar.PrintingRules
import OperatorPeg.Proofs.Grammar.QuotedPlaces
import OperatorPeg.Proofs.Grammar.Quotes
import OperatorPeg.Proofs.Grammar.Quoting
import OperatorPeg.Proofs.Grammar.Reading
import OperatorPeg.Proofs.Grammar.Redisplay
import OperatorPeg.Proofs.Grammar.Rendering
import OperatorPeg.Proofs.Grammar.Resolution
import OperatorPeg.Proofs.Grammar.RoundTrip
import OperatorPeg.Proofs.Grammar.SelfHosting
import OperatorPeg.Proofs.Grammar.Spans
import OperatorPeg.Proofs.Grammar.Spelling
import OperatorPeg.Proofs.Grammar.Stops
import OperatorPeg.Proofs.Grammar.Termination
import OperatorPeg.Proofs.Grammar.Tokens
import OperatorPeg.Proofs.Greedy
import OperatorPeg.Proofs.Highlights
import OperatorPeg.Proofs.History
import OperatorPeg.Proofs.Layers
import OperatorPeg.Proofs.Limits
import OperatorPeg.Proofs.Limits.InStep
import OperatorPeg.Proofs.Limits.Layers
import OperatorPeg.Proofs.Limits.Loops
import OperatorPeg.Proofs.Log
import OperatorPeg.Proofs.Lossless
import OperatorPeg.Proofs.Moments
import OperatorPeg.Proofs.Nodes
import OperatorPeg.Proofs.Onward
import OperatorPeg.Proofs.Outline
import OperatorPeg.Proofs.ParseRuns
import OperatorPeg.Proofs.Past
import OperatorPeg.Proofs.Places
import OperatorPeg.Proofs.Precedence
import OperatorPeg.Proofs.Probing
import OperatorPeg.Proofs.Ranges
import OperatorPeg.Proofs.Recognition
import OperatorPeg.Proofs.References
import OperatorPeg.Proofs.Regex.Brackets
import OperatorPeg.Proofs.Regex.Faults
import OperatorPeg.Proofs.Regex.Scanning
import OperatorPeg.Proofs.RegexEnds
import OperatorPeg.Proofs.Reporting
import OperatorPeg.Proofs.Runs
import OperatorPeg.Proofs.Shift
import OperatorPeg.Proofs.Shift.States
import OperatorPeg.Proofs.Shift.Terminals
import OperatorPeg.Proofs.Significance
import OperatorPeg.Proofs.Skeleton
import OperatorPeg.Proofs.SkipsAgain
import OperatorPeg.Proofs.States
import OperatorPeg.Proofs.Tracing
import OperatorPeg.Proofs.Traversals
import OperatorPeg.Proofs.Trees
import OperatorPeg.Proofs.Unlimited
import OperatorPeg.Proofs.Writing
import OperatorPeg.Proofs.Yields
import OperatorPeg.Regex.Ast
import OperatorPeg.Regex.Basic
import OperatorPeg.Regex.Bracket
import OperatorPeg.Regex.Ends
import OperatorPeg.Regex.Escape
import OperatorPeg.Regex.Fault
import OperatorPeg.Regex.Group
import OperatorPeg.Regex.Property
import OperatorPeg.Regex.Reader
import OperatorPeg.Regex.Resolve
import OperatorPeg.Regex.Scanner
import OperatorPeg.Session
import OperatorPeg.Snippet.Canvas
import OperatorPeg.Snippet.Draw
import OperatorPeg.Snippet.Layout
import OperatorPeg.Snippet.Margin
import OperatorPeg.Snippet.Mark
import OperatorPeg.Snippet.Notice
import OperatorPeg.Snippet.SourceLine
import OperatorPeg.Text.Bytes
import OperatorPeg.Text.Cursor
import OperatorPeg.Text.Escaped
import OperatorPeg.Text.Palette
import OperatorPeg.Text.Quoted
import OperatorPeg.Text.Range
import OperatorPeg.Text.Span
import OperatorPeg.Text.Visible
import OperatorPeg.Tree.Basic
import OperatorPeg.Tree.Dump
import OperatorPeg.Tree.SExpr
import OperatorPeg.Tree.Visit
import OperatorPeg.Tree.Visitor
import OperatorPeg.Unicode.Binary
import OperatorPeg.Unicode.Blank
import OperatorPeg.Unicode.Category
import OperatorPeg.Unicode.CharSet
import OperatorPeg.Unicode.Digit
import OperatorPeg.Unicode.Encoded
import OperatorPeg.Unicode.Folding
import OperatorPeg.Unicode.Printable
import OperatorPeg.Unicode.Script
import OperatorPeg.Unicode.Width
import OperatorPeg.Unicode.Word
