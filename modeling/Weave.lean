import Weave.Action
import Weave.Arguments
import Weave.Block
import Weave.Build
import Weave.CommandLine
import Weave.Configuration
import Weave.Console
import Weave.Decimal.Rounded
import Weave.Decimal.Shortest
import Weave.Decimal.Written
import Weave.Dictionary
import Weave.Document.Body
import Weave.Document.Fault
import Weave.Document.Progress
import Weave.Document.Reading
import Weave.Document.Script
import Weave.Document.Sections
import Weave.Engine
import Weave.Evaluator
import Weave.Evaluator.Threads
import Weave.Event
import Weave.Exception
import Weave.Failure
import Weave.Header
import Weave.Html
import Weave.Html.Escape
import Weave.Html.Names
import Weave.Latex
import Weave.Latex.Escape
import Weave.Latex.Prose
import Weave.Libraries
import Weave.Main
import Weave.Markdown
import Weave.Markdown.Block
import Weave.Markdown.CodeSpan
import Weave.Markdown.Element
import Weave.Markdown.Emphasis
import Weave.Markdown.Inline
import Weave.Markdown.Lines
import Weave.Markdown.RawHtml
import Weave.Markdown.Table
import Weave.Markdown.Written
import Weave.Outcome
import Weave.Outcome.Presentation
import Weave.Outcome.Table
import Weave.Output
import Weave.Path
import Weave.Pattern
import Weave.Program.Arithmetic
import Weave.Program.Builtin
import Weave.Program.Calls
import Weave.Program.Complex
import Weave.Program.Execution
import Weave.Program.Fault
import Weave.Program.Field
import Weave.Program.Formatting
import Weave.Program.Grammar
import Weave.Program.Index
import Weave.Program.Json
import Weave.Program.Lexeme
import Weave.Program.Literal
import Weave.Program.Machine
import Weave.Program.Members
import Weave.Program.Misplacement
import Weave.Program.Misreading
import Weave.Program.Modules
import Weave.Program.Numeral
import Weave.Program.Operators
import Weave.Program.Place
import Weave.Program.Reading
import Weave.Program.Session
import Weave.Program.Sharing
import Weave.Program.Traceback
import Weave.Program.Tree
import Weave.Proofs.Build.Collected
import Weave.Proofs.Build.Underway
import Weave.Proofs.Build.Written
import Weave.Proofs.Console.Routes
import Weave.Proofs.Document.Bodies
import Weave.Proofs.Document.Chunks
import Weave.Proofs.Document.Closing
import Weave.Proofs.Document.Commands
import Weave.Proofs.Document.Drafts
import Weave.Proofs.Document.Embeds
import Weave.Proofs.Document.Headers
import Weave.Proofs.Document.LineEnds
import Weave.Proofs.Document.Lines
import Weave.Proofs.Document.LookAhead
import Weave.Proofs.Document.Parts
import Weave.Proofs.Document.Passes
import Weave.Proofs.Document.Printing
import Weave.Proofs.Document.Returns
import Weave.Proofs.Document.Rules
import Weave.Proofs.Document.Scan
import Weave.Proofs.Document.Searching
import Weave.Proofs.Document.Spans
import Weave.Proofs.Document.Spelling
import Weave.Proofs.Document.Taking
import Weave.Proofs.Engine.Captures
import Weave.Proofs.Engine.LastValue
import Weave.Proofs.Evaluation.Attempts
import Weave.Proofs.Evaluation.Calls
import Weave.Proofs.Evaluation.Later
import Weave.Proofs.Evaluation.Listeners
import Weave.Proofs.Evaluation.Subscriptions
import Weave.Proofs.Html.Blocks
import Weave.Proofs.Html.Markup
import Weave.Proofs.Latex.Drafts
import Weave.Proofs.Latex.Escaping
import Weave.Proofs.Latex.Lexemes
import Weave.Proofs.Latex.LineClasses
import Weave.Proofs.Latex.Markup
import Weave.Proofs.Latex.Options
import Weave.Proofs.Latex.Parts
import Weave.Proofs.Latex.Runs
import Weave.Proofs.Latex.Tables
import Weave.Proofs.Latex.Verbatim
import Weave.Proofs.Outcome.Presentation
import Weave.Proofs.Outcome.Records
import Weave.Proofs.Output.Documents
import Weave.Proofs.Program.Captures
import Weave.Proofs.Program.Effects
import Weave.Proofs.Program.Listings
import Weave.Proofs.Program.Renaming
import Weave.Proofs.Program.Snippets
import Weave.Proofs.Program.Sources
import Weave.Proofs.Program.Sparing
import Weave.Proofs.Program.SparingEffects
import Weave.Proofs.Program.Tame
import Weave.Proofs.Rendering.Exchange
import Weave.Proofs.Rendering.History
import Weave.Proofs.Rendering.InForce
import Weave.Proofs.Rendering.InStep
import Weave.Proofs.Rendering.Independence
import Weave.Proofs.Rendering.Record
import Weave.Proofs.Rendering.Refusals
import Weave.Proofs.Rendering.Requests
import Weave.Proofs.Rendering.Scripts
import Weave.Proofs.Rendering.Steps
import Weave.Proofs.Rendering.Unevaluated
import Weave.Proofs.Session.Directories
import Weave.Proofs.Session.Evaluations
import Weave.Proofs.Session.LastValue
import Weave.Proofs.Session.Options
import Weave.Proofs.Session.SearchPath
import Weave.Proofs.Snippet.Cycles
import Weave.Proofs.Snippet.Expansion
import Weave.Proofs.Snippet.Nesting
import Weave.Proofs.Snippet.Reach
import Weave.Proofs.Text.Cutting
import Weave.Proofs.Text.Lines
import Weave.Proofs.Threads.Home
import Weave.Proofs.Threads.LockOrder
import Weave.Proofs.Threads.Progress
import Weave.Proofs.Threads.Serial
import Weave.Proofs.Threads.Sessions
import Weave.Proofs.Threads.Stages
import Weave.Proofs.Token.Cuts
import Weave.Proofs.Token.Places
import Weave.Proofs.Token.Rewinding
import Weave.Proofs.Watch.Rebuilds
import Weave.Proofs.World.Disk
import Weave.Proofs.World.Tree
import Weave.Proofs.Yaml.Roots
import Weave.Rendering
import Weave.Repl
import Weave.Schema
import Weave.Section
import Weave.Session
import Weave.Session.Options
import Weave.Session.Playback
import Weave.Snippet
import Weave.Template
import Weave.Template.Expression
import Weave.Text
import Weave.Text.Quoted
import Weave.Token
import Weave.Token.Cursor
import Weave.Unicode.Alphanumeric
import Weave.Unicode.Composition
import Weave.Unicode.Digits
import Weave.Unicode.Identifier
import Weave.Unicode.Lowercase
import Weave.Unicode.Names
import Weave.Unicode.Normalization
import Weave.Unicode.Printable
import Weave.Unicode.Table
import Weave.Unicode.Uppercase
import Weave.Unicode.Variant
import Weave.Value
import Weave.Value.Layout
import Weave.Value.Order
import Weave.Value.Sorted
import Weave.Value.Written
import Weave.Watch
import Weave.World
import Weave.Yaml.Datum
import Weave.Yaml.Node
import Weave.Yaml.Token
