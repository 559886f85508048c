import CommandCompletion.Argument
import CommandCompletion.Candidate
import CommandCompletion.Data.Dict
import CommandCompletion.Data.Moment
import CommandCompletion.Data.Value
import CommandCompletion.Decimal.Double
import CommandCompletion.Decimal.Shortest
import CommandCompletion.Editor
import CommandCompletion.Files.FilePath
import CommandCompletion.Files.Store
import CommandCompletion.Grammar.Distinct
import CommandCompletion.Grammar.Export
import CommandCompletion.Grammar.Node
import CommandCompletion.Grammar.Redirect
import CommandCompletion.Grammar.Shape
import CommandCompletion.Grammar.Tree
import CommandCompletion.Identifier
import CommandCompletion.Json.Printer
import CommandCompletion.Json.Reader
import CommandCompletion.Line.Bite
import CommandCompletion.Line.Suggestion
import CommandCompletion.Line.Trace
import CommandCompletion.Line.Walk
import CommandCompletion.Loading
import CommandCompletion.Log
import CommandCompletion.Main
import CommandCompletion.Markup
import CommandCompletion.Markup.Color
import CommandCompletion.Markup.Emoji
import CommandCompletion.Markup.EmojiNames
import CommandCompletion.Markup.Literal
import CommandCompletion.Markup.Literal.Number
import CommandCompletion.Markup.Literal.Quotation
import CommandCompletion.Markup.Literal.Token
import CommandCompletion.Markup.Style
import CommandCompletion.Markup.Styled
import CommandCompletion.Program.Files
import CommandCompletion.Program.Page
import CommandCompletion.Program.Request
import CommandCompletion.Program.Run
import CommandCompletion.Program.Scan
import CommandCompletion.Program.Session
import CommandCompletion.Program.World
import CommandCompletion.Proofs.Data.Alike
import CommandCompletion.Proofs.Data.Dict
import CommandCompletion.Proofs.Data.Result
import CommandCompletion.Proofs.Data.Value
import CommandCompletion.Proofs.Editor
import CommandCompletion.Proofs.Files.Store
import CommandCompletion.Proofs.Grammar.Building
import CommandCompletion.Proofs.Grammar.Chain
import CommandCompletion.Proofs.Grammar.Children
import CommandCompletion.Proofs.Grammar.Decoded
import CommandCompletion.Proofs.Grammar.Export
import CommandCompletion.Proofs.Grammar.Fields
import CommandCompletion.Proofs.Grammar.Paths
import CommandCompletion.Proofs.Grammar.Resolution
import CommandCompletion.Proofs.Json.Bounds
import CommandCompletion.Proofs.Json.Decoded
import CommandCompletion.Proofs.Json.Document
import CommandCompletion.Proofs.Json.Double
import CommandCompletion.Proofs.Json.Hex
import CommandCompletion.Proofs.Json.LineEnd
import CommandCompletion.Proofs.Json.Number
import CommandCompletion.Proofs.Json.Quoted
import CommandCompletion.Proofs.Line.Acceptance
import CommandCompletion.Proofs.Line.Alias
import CommandCompletion.Proofs.Line.Choice
import CommandCompletion.Proofs.Line.Course
import CommandCompletion.Proofs.Line.Decoded
import CommandCompletion.Proofs.Line.Descent
import CommandCompletion.Proofs.Line.Ending
import CommandCompletion.Proofs.Line.Joining
import CommandCompletion.Proofs.Line.Keystroke
import CommandCompletion.Proofs.Line.Lookup
import CommandCompletion.Proofs.Line.Narrowing
import CommandCompletion.Proofs.Line.Offers
import CommandCompletion.Proofs.Line.Phrase
import CommandCompletion.Proofs.Line.Respacing
import CommandCompletion.Proofs.Line.Tiling
import CommandCompletion.Proofs.Line.Trailing
import CommandCompletion.Proofs.Line.Writing
import CommandCompletion.Proofs.Loading
import CommandCompletion.Proofs.Markup.Bracket
import CommandCompletion.Proofs.Markup.Escape
import CommandCompletion.Proofs.Markup.Nesting
import CommandCompletion.Proofs.Markup.Quotation
import CommandCompletion.Proofs.Markup.Reading
import CommandCompletion.Proofs.Markup.Seen
import CommandCompletion.Proofs.Markup.Sign
import CommandCompletion.Proofs.Markup.Verbatim
import CommandCompletion.Proofs.Program.Commands
import CommandCompletion.Proofs.Program.Conversation
import CommandCompletion.Proofs.Program.Document
import CommandCompletion.Proofs.Program.Ending
import CommandCompletion.Proofs.Program.Opening
import CommandCompletion.Proofs.Program.Outcome
import CommandCompletion.Proofs.Program.Request
import CommandCompletion.Proofs.Program.Session
import CommandCompletion.Proofs.Program.Tree
import CommandCompletion.Proofs.Registries
import CommandCompletion.Proofs.Report.Clear
import CommandCompletion.Proofs.Report.Shown
import CommandCompletion.Proofs.Report.Sign
import CommandCompletion.Proofs.Report.Table
import CommandCompletion.Proofs.Report.Verbatim
import CommandCompletion.Proofs.Sample
import CommandCompletion.Proofs.Settings.Address
import CommandCompletion.Proofs.Settings.Holding
import CommandCompletion.Proofs.Settings.Keeping
import CommandCompletion.Proofs.Settings.Merge
import CommandCompletion.Proofs.Settings.Overlay
import CommandCompletion.Proofs.Settings.RoundTrip
import CommandCompletion.Proofs.Settings.Run
import CommandCompletion.Proofs.Settings.Saving
import CommandCompletion.Proofs.Text.Half
import CommandCompletion.Proofs.Text.Spacing
import CommandCompletion.Proofs.Text.Wrap
import CommandCompletion.Proofs.Toml.Arranged
import CommandCompletion.Proofs.Toml.Cut
import CommandCompletion.Proofs.Toml.Document
import CommandCompletion.Proofs.Toml.Draft
import CommandCompletion.Proofs.Toml.Inline
import CommandCompletion.Proofs.Toml.Key
import CommandCompletion.Proofs.Toml.Number
import CommandCompletion.Proofs.Toml.Place
import CommandCompletion.Proofs.Toml.Printing
import CommandCompletion.Proofs.Toml.Quoted
import CommandCompletion.Proofs.Toml.Sections
import CommandCompletion.Proofs.Toml.Statement
import CommandCompletion.Registries
import CommandCompletion.Report.Basic
import CommandCompletion.Report.Line
import CommandCompletion.Report.Outline
import CommandCompletion.Report.Panel
import CommandCompletion.Report.Settings
import CommandCompletion.Report.Table
import CommandCompletion.Sample
import CommandCompletion.Settings.Coercion
import CommandCompletion.Settings.Config
import CommandCompletion.Settings.Merge
import CommandCompletion.Text
import CommandCompletion.Text.Blank
import CommandCompletion.Text.Cased
import CommandCompletion.Text.Cluster
import CommandCompletion.Text.Digit
import CommandCompletion.Text.Hex
import CommandCompletion.Text.Likeness
import CommandCompletion.Text.LineEnd
import CommandCompletion.Text.Location
import CommandCompletion.Text.LowerCase
import CommandCompletion.Text.Printable
import CommandCompletion.Text.Quoted
import CommandCompletion.Text.Ranges
import CommandCompletion.Text.Terminal
import CommandCompletion.Text.Width
import CommandCompletion.Text.Word
import CommandCompletion.Text.Wrap
import CommandCompletion.Toml.Fault
import CommandCompletion.Toml.Moment
import CommandCompletion.Toml.Number
import CommandCompletion.Toml.Printer
import CommandCompletion.Toml.Quoted
import CommandCompletion.Toml.Reader
