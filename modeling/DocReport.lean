import DocReport.CommandLine.Argument
import DocReport.CommandLine.Command
import DocReport.CommandLine.Run
import DocReport.CommandLine.Usage
import DocReport.Compilation.Binding
import DocReport.Compilation.Fragment
import DocReport.Compilation.Index
import DocReport.Compilation.Member
import DocReport.Decimal.Binary
import DocReport.Decimal.Rounded
import DocReport.Failure
import DocReport.Files.Collection
import DocReport.Files.FileSystem
import DocReport.Files.Path
import DocReport.Logging.Attribute
import DocReport.Logging.Format
import DocReport.Logging.Logger
import DocReport.Logging.Record
import DocReport.Main
import DocReport.Markdown.Paragraph
import DocReport.Markdown.Piece
import DocReport.Markdown.Render
import DocReport.Markup.Character
import DocReport.Markup.Epilogue
import DocReport.Markup.Fault
import DocReport.Markup.NameTable
import DocReport.Markup.Namespace
import DocReport.Markup.Node
import DocReport.Markup.Reader
import DocReport.Markup.Reference
import DocReport.Markup.Tag
import DocReport.Markup.Token
import DocReport.Report.Assembly
import DocReport.Report.Moment
import DocReport.Report.Project
import DocReport.Section
import DocReport.Section.Extraction
import DocReport.Session
import DocReport.Settings
import DocReport.Source.Comment
import DocReport.Source.Entry
import DocReport.Source.Extent
import DocReport.Source.Lexeme
import DocReport.Source.Literal
import DocReport.Source.Parameter
import DocReport.Source.Reader
import DocReport.Source.Token
import DocReport.Symbol.Declaration
import DocReport.Symbol.Identity
import DocReport.Symbol.Marker
import DocReport.Symbol.Nesting
import DocReport.Symbol.TypeName
import DocReport.Text.Basic
import DocReport.Text.Case
import DocReport.Text.CaseTable
import DocReport.Text.Dedent
import DocReport.Text.DigitTable
import DocReport.Text.PrintTable
import DocReport.Text.Quoted
import DocReport.Text.Utf8
import DocReport.Text.Word
import DocReport.Text.WordTable
import DocReport.Yaml.Cursor
import DocReport.Yaml.Document
import DocReport.Yaml.Node
import DocReport.Yaml.Plain
import DocReport.Yaml.Scalar
import DocReport.Yaml.Token
import DocReport.Yaml.Value
import DocReport.Proofs.Markdown.Solid
import DocReport.Proofs.Compilation.Search
import DocReport.Proofs.Symbol.Identifier
import DocReport.Proofs.Compilation.EnclosingType
import DocReport.Proofs.Markup.Locality.Tag
import DocReport.Proofs.Markup.Locality.Token
import DocReport.Proofs.Markup.Splice
import DocReport.Proofs.Markup.BlankValues
import DocReport.Proofs.Markup.Exchange
import DocReport.Proofs.Compilation.BoundMarkup
import DocReport.Proofs.Text.Cut
import DocReport.Proofs.Symbol.Nesting
import DocReport.Proofs.Text.Spaced
import DocReport.Proofs.Symbol.SimpleType
import DocReport.Proofs.Symbol.Qualified
import DocReport.Proofs.Symbol.ParameterList
import DocReport.Proofs.Symbol.Decoding
import DocReport.Proofs.Compilation.NestingPath
import DocReport.Proofs.Compilation.Escape
import DocReport.Proofs.Compilation.Overload
import DocReport.Proofs.Report.Outline
import DocReport.Proofs.Report.Layout
import DocReport.Proofs.Report.CommentIsolation
import DocReport.Proofs.Report.FileOrder
import DocReport.Proofs.Markup.Content
import DocReport.Proofs.Markup.Merging
import DocReport.Proofs.Markup.Fragment
import DocReport.Proofs.Markup.Composition
import DocReport.Proofs.Markup.Writer
import DocReport.Proofs.Markup.RoundTrip
import DocReport.Proofs.Text.Edges
import DocReport.Proofs.Markdown.Pieces
import DocReport.Proofs.Markdown.Fences
import DocReport.Proofs.Markdown.OneLine
import DocReport.Proofs.Section.TableCells
import DocReport.Proofs.Source.Entries
import DocReport.Proofs.Source.ScopeChain
import DocReport.Proofs.Files.Writing
import DocReport.Proofs.CommandLine.Listing
import DocReport.Proofs.CommandLine.Agreement
import DocReport.Proofs.Text.Dedent
import DocReport.Proofs.Source.CommentStyle
import DocReport.Proofs.Symbol.Braces
import DocReport.Proofs.Compilation.BraceSpelling
import DocReport.Proofs.Symbol.PassingMode
import DocReport.Proofs.Compilation.ByReference
import DocReport.Proofs.Compilation.GenericArity
import DocReport.Proofs.Compilation.Rebinding
import DocReport.Proofs.Text.Phrase
import DocReport.Proofs.Markdown.RunningText
import DocReport.Proofs.Markdown.Transparency
import DocReport.Proofs.Text.Gap
import DocReport.Proofs.Markdown.Separation
import DocReport.Proofs.Symbol.MarkerRemoval
import DocReport.Proofs.Symbol.Cuts
import DocReport.Proofs.Symbol.AnyText
import DocReport.Proofs.Symbol.DisplayedId
import DocReport.Proofs.Compilation.Respelling
import DocReport.Proofs.Files.Frame
import DocReport.Proofs.Logging.Installation
import DocReport.Proofs.Logging.PlainFormat
import DocReport.Proofs.Files.Selection
import DocReport.Proofs.CommandLine.Request
import DocReport.Proofs.CommandLine.Repetition
import DocReport.Proofs.Files.Tree
import DocReport.Proofs.Files.Exactness
import DocReport.Proofs.Yaml.Mapping
import DocReport.Proofs.Settings.Fallback
import DocReport.Proofs.Logging.History
import DocReport.Proofs.Symbol.Splitting
