import ShapeCoords.CommandLine.Arguments
import ShapeCoords.CommandLine.FilePath
import ShapeCoords.CommandLine.FileTree
import ShapeCoords.CommandLine.Run
import ShapeCoords.Document
import ShapeCoords.Event
import ShapeCoords.Extraction
import ShapeCoords.Geometry.Shift
import ShapeCoords.Json.Fault
import ShapeCoords.Json.Printer
import ShapeCoords.Json.Reader
import ShapeCoords.Json.Reader.Fields
import ShapeCoords.Json.Reader.Numbers
import ShapeCoords.Json.Reader.Strings
import ShapeCoords.Json.Reader.Values
import ShapeCoords.Json.Value
import ShapeCoords.Main
import ShapeCoords.Markup.Builder
import ShapeCoords.Markup.Builder.Body
import ShapeCoords.Markup.Builder.Metadata
import ShapeCoords.Markup.Builder.Misnesting
import ShapeCoords.Markup.Builder.Modes
import ShapeCoords.Markup.Builder.Table
import ShapeCoords.Markup.CharacterReference
import ShapeCoords.Markup.ElementName
import ShapeCoords.Markup.Fault
import ShapeCoords.Markup.Parsing
import ShapeCoords.Markup.ReferenceTable
import ShapeCoords.Markup.Token
import ShapeCoords.Markup.Token.Comment
import ShapeCoords.Markup.Token.Doctype
import ShapeCoords.Markup.Token.RawText
import ShapeCoords.Markup.Token.Stream
import ShapeCoords.Markup.Token.Tag
import ShapeCoords.Markup.Tree
import ShapeCoords.Number.Binary64
import ShapeCoords.Number.Decimal
import ShapeCoords.Number.Layout
import ShapeCoords.Number.Reading
import ShapeCoords.Number.Shortest
import ShapeCoords.Options
import ShapeCoords.Options.Configuration
import ShapeCoords.Options.Reading
import ShapeCoords.Page.Block
import ShapeCoords.Page.Piece
import ShapeCoords.Page.Renderer
import ShapeCoords.Page.Rendering
import ShapeCoords.Primitive
import ShapeCoords.Proofs.CommandLine.Acceptance
import ShapeCoords.Proofs.CommandLine.Items
import ShapeCoords.Proofs.CommandLine.Outcome
import ShapeCoords.Proofs.CommandLine.Precedence
import ShapeCoords.Proofs.CommandLine.Settings
import ShapeCoords.Proofs.Drawing.Article
import ShapeCoords.Proofs.Drawing.Extraction
import ShapeCoords.Proofs.Drawing.Forest
import ShapeCoords.Proofs.Drawing.Picture
import ShapeCoords.Proofs.Extraction.Corners
import ShapeCoords.Proofs.Extraction.Fallback
import ShapeCoords.Proofs.Extraction.Grouping
import ShapeCoords.Proofs.Extraction.Independence
import ShapeCoords.Proofs.Extraction.Malformed
import ShapeCoords.Proofs.Extraction.Order
import ShapeCoords.Proofs.Extraction.Placement
import ShapeCoords.Proofs.Extraction.Reasons
import ShapeCoords.Proofs.Extraction.Reports
import ShapeCoords.Proofs.Extraction.Run
import ShapeCoords.Proofs.Extraction.Warnings
import ShapeCoords.Proofs.Geometry.Leftmost
import ShapeCoords.Proofs.Geometry.Term
import ShapeCoords.Proofs.Json.Compact
import ShapeCoords.Proofs.Json.Defaults
import ShapeCoords.Proofs.Json.NumberText
import ShapeCoords.Proofs.Json.NumberTokens
import ShapeCoords.Proofs.Json.Numbers
import ShapeCoords.Proofs.Json.Objects
import ShapeCoords.Proofs.Json.Outcomes
import ShapeCoords.Proofs.Json.Reading
import ShapeCoords.Proofs.Json.Skipping
import ShapeCoords.Proofs.Json.Spacing
import ShapeCoords.Proofs.Json.Squeezing
import ShapeCoords.Proofs.Json.Strings
import ShapeCoords.Proofs.Json.Structures
import ShapeCoords.Proofs.Json.Texts
import ShapeCoords.Proofs.Json.Values
import ShapeCoords.Proofs.Markup.BodyEdits
import ShapeCoords.Proofs.Markup.Building
import ShapeCoords.Proofs.Markup.DocumentOrder
import ShapeCoords.Proofs.Markup.Edits
import ShapeCoords.Proofs.Markup.Forests
import ShapeCoords.Proofs.Markup.Growth
import ShapeCoords.Proofs.Markup.KeptOrder
import ShapeCoords.Proofs.Markup.MisnestingEdits
import ShapeCoords.Proofs.Markup.MissingDoctype
import ShapeCoords.Proofs.Markup.ModeEdits
import ShapeCoords.Proofs.Markup.OrderOfMaking
import ShapeCoords.Proofs.Markup.Paragraphs
import ShapeCoords.Proofs.Markup.Ranks
import ShapeCoords.Proofs.Markup.References
import ShapeCoords.Proofs.Markup.TableEdits
import ShapeCoords.Proofs.Markup.Tags
import ShapeCoords.Proofs.Markup.TextEdits
import ShapeCoords.Proofs.Number.Conversion
import ShapeCoords.Proofs.Number.Denotation
import ShapeCoords.Proofs.Number.Digits
import ShapeCoords.Proofs.Number.Fewest
import ShapeCoords.Proofs.Number.Grammar
import ShapeCoords.Proofs.Number.Nearest
import ShapeCoords.Proofs.Number.Notation
import ShapeCoords.Proofs.Number.Numeral
import ShapeCoords.Proofs.Number.Reading
import ShapeCoords.Proofs.Number.Rounding
import ShapeCoords.Proofs.Number.Scaling
import ShapeCoords.Proofs.Number.Shortest
import ShapeCoords.Proofs.Options.Documents
import ShapeCoords.Proofs.Options.Given
import ShapeCoords.Proofs.Options.Members
import ShapeCoords.Proofs.Options.Variants
import ShapeCoords.Proofs.Page.Agreement
import ShapeCoords.Proofs.Page.Article
import ShapeCoords.Proofs.Page.Blockless
import ShapeCoords.Proofs.Page.Blocks
import ShapeCoords.Proofs.Page.Calls
import ShapeCoords.Proofs.Page.Collecting
import ShapeCoords.Proofs.Page.Comments
import ShapeCoords.Proofs.Page.Cutting
import ShapeCoords.Proofs.Page.Escaping
import ShapeCoords.Proofs.Page.FirstPiece
import ShapeCoords.Proofs.Page.Frame
import ShapeCoords.Proofs.Page.Pieces
import ShapeCoords.Proofs.Record.RoundTrip
import ShapeCoords.Proofs.Record.Untagged
import ShapeCoords.Proofs.Text.Runs
import ShapeCoords.Proofs.Text.Trimming
import ShapeCoords.Record
import ShapeCoords.Record.Reading
import ShapeCoords.SystemFault
import ShapeCoords.Text.Blank
import ShapeCoords.Text.DecimalDigit
import ShapeCoords.Text.Description
import ShapeCoords.Text.Quoted
import ShapeCoords.Text.Splitting
import ShapeCoords.Yaml.Cursor
import ShapeCoords.Yaml.Document
import ShapeCoords.Yaml.Event
import ShapeCoords.Yaml.Event.Stream
import ShapeCoords.Yaml.Fault
import ShapeCoords.Yaml.Reading
import ShapeCoords.Yaml.Resolution
import ShapeCoords.Yaml.Token
import ShapeCoords.Yaml.Token.Scalar
import ShapeCoords.Yaml.Token.Stream
import ShapeCoords.Yaml.Token.Tag
