import DocSite.Answer.Json
import DocSite.Answer.Text
import DocSite.Catalog.Basic
import DocSite.Catalog.Collect
import DocSite.Catalog.Order
import DocSite.CommandLine.Grammar
import DocSite.CommandLine.Halt
import DocSite.CommandLine.Invocation
import DocSite.CommandLine.Reading
import DocSite.Date.Basic
import DocSite.Date.Moment
import DocSite.Date.Reader
import DocSite.Disk.Access
import DocSite.Disk.Basic
import DocSite.Entries
import DocSite.Error
import DocSite.FileTree.Basic
import DocSite.Folder
import DocSite.FrontMatter.Basic
import DocSite.FrontMatter.Fields
import DocSite.Json.Basic
import DocSite.Json.Fields
import DocSite.Json.Printer
import DocSite.Json.Reader
import DocSite.Listing.Basic
import DocSite.Listing.Pages
import DocSite.Listing.Tags
import DocSite.Main
import DocSite.Markdown.Block
import DocSite.Markdown.Definition
import DocSite.Markdown.Emphasis
import DocSite.Markdown.Entity
import DocSite.Markdown.Event
import DocSite.Markdown.Html
import DocSite.Markdown.Inline
import DocSite.Markdown.Layout
import DocSite.Markdown.Link
import DocSite.Markdown.Margin
import DocSite.Markdown.Marker
import DocSite.Markdown.Node
import DocSite.Markdown.Render
import DocSite.Markdown.Scan
import DocSite.Markdown.Stream
import DocSite.Markdown.Token
import DocSite.Number.Binary64
import DocSite.Number.Decimal
import DocSite.Number.RoundEven
import DocSite.Program
import DocSite.Proofs.StableSort
import DocSite.Proofs.Text.Bytes
import DocSite.Proofs.Text.ByteOrder
import DocSite.Record.Basic
import DocSite.Record.Json
import DocSite.Record.Normalize
import DocSite.Related
import DocSite.Settings.Basic
import DocSite.Settings.Json
import DocSite.Settings.Stored
import DocSite.Settings.Toml
import DocSite.Slug
import DocSite.Text.Alphanumeric
import DocSite.Text.Blank
import DocSite.Text.Bytes
import DocSite.Text.CaseFold
import DocSite.Text.CodePoint
import DocSite.Text.Digit
import DocSite.Text.LetterCase
import DocSite.Text.Lowercase
import DocSite.Text.Punctuation
import DocSite.Text.Quoted
import DocSite.Text.Unprintable
import DocSite.Toml.Basic
import DocSite.Toml.Number
import DocSite.Toml.Quoted
import DocSite.Toml.Reader
import DocSite.Words
import DocSite.Yaml.Cursor
import DocSite.Yaml.Event
import DocSite.Yaml.Lexer
import DocSite.Yaml.Name
import DocSite.Yaml.Scalar
import DocSite.Yaml.Token
import DocSite.Proofs.Catalog.Collect
import DocSite.Proofs.Catalog.Memo
import DocSite.Proofs.Catalog.Interleaving
import DocSite.Proofs.Number.Binary64
import DocSite.Proofs.Related
import DocSite.Proofs.Slug
import DocSite.Proofs.Record.Normalize
import DocSite.Proofs.Listing.Lookup
import DocSite.Proofs.Listing.Groups
import DocSite.Proofs.Entries
import DocSite.Proofs.FileTree
import DocSite.Proofs.Disk
import DocSite.Proofs.Disk.ReadBack
import DocSite.Proofs.Except
import DocSite.Proofs.Folder
import DocSite.Proofs.Listing.Identity
import DocSite.Proofs.Markdown.Separation
import DocSite.Proofs.Record.Names
import DocSite.Proofs.Folder.Pages
import DocSite.Proofs.Folder.Walk
import DocSite.Proofs.Folder.Records
import DocSite.Proofs.Folder.Faults
import DocSite.Proofs.Catalog.SourceOrder
import DocSite.Proofs.Listing.Tags
import DocSite.Proofs.Answer.Json
import DocSite.Proofs.Answer.Text
import DocSite.Proofs.Program.Pages
import DocSite.Proofs.FrontMatter.Lines
import DocSite.Proofs.Text.Pattern
import DocSite.Proofs.FrontMatter.Pattern
import DocSite.Proofs.FrontMatter.Split
import DocSite.Proofs.Number.RoundOff
import DocSite.Proofs.Related.ScoreOrder
import DocSite.Proofs.Text.Digit
import DocSite.Proofs.Json.Reading
import DocSite.Proofs.Json.RoundTrip
import DocSite.Proofs.Date
import DocSite.Proofs.Json.Fields
import DocSite.Proofs.Record.RoundTrip
import DocSite.Proofs.Number.Decimal
import DocSite.Proofs.Program.Rows
import DocSite.Proofs.Toml.Quoted
import DocSite.Proofs.Toml.Number
import DocSite.Proofs.Toml.Reader
import DocSite.Proofs.Toml.Word
import DocSite.Proofs.Settings.RoundTrip
import DocSite.Proofs.Settings.Stored
import DocSite.Proofs.Folder.Slugs
import DocSite.Proofs.Number.Nearest
import DocSite.Proofs.Record.Renormalize
import DocSite.Proofs.Related.Ties
import DocSite.Proofs.Slug.Runs
import DocSite.Proofs.Date.Layouts
import DocSite.Proofs.Words
import DocSite.Proofs.Folder.BlankSlug
import DocSite.Proofs.Number.Interchange
import DocSite.Proofs.Number.Monotone
import DocSite.Proofs.Related.Range
import DocSite.Proofs.Related.Symmetry
import DocSite.Proofs.Related.Selection
import DocSite.Proofs.Listing.Neighbours
import DocSite.Proofs.Listing.Latest
import DocSite.Proofs.Text.Trim
import DocSite.Proofs.Markdown.Inline
import DocSite.Proofs.Markdown.Headings
