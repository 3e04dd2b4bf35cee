import PageSkins.Backend.Client
import PageSkins.Backend.Response
import PageSkins.Breaker
import PageSkins.Calendar
import PageSkins.Calendar.Iso
import PageSkins.Calendar.Stamp
import PageSkins.CommandLine.Options
import PageSkins.CommandLine.Request
import PageSkins.CommandLine.Run
import PageSkins.CommandLine.Session
import PageSkins.DataFile
import PageSkins.Decimal.Binary
import PageSkins.Decimal.Notation
import PageSkins.Decimal.Number
import PageSkins.Decimal.Reader
import PageSkins.Disk
import PageSkins.Environment
import PageSkins.Failure
import PageSkins.Failure.Name
import PageSkins.Json.Reader
import PageSkins.Json.Writer
import PageSkins.Main
import PageSkins.Markup.Address
import PageSkins.Markup.Lexer
import PageSkins.Markup.Policy
import PageSkins.Markup.RawText
import PageSkins.Markup.Reference
import PageSkins.Markup.Reference.Table
import PageSkins.Markup.Sanitize
import PageSkins.Markup.Tree
import PageSkins.Markup.Tree.Adoption
import PageSkins.Markup.Tree.Arena
import PageSkins.Markup.Tree.Builder
import PageSkins.Markup.Tree.Ends
import PageSkins.Markup.Tree.Starts
import PageSkins.Markup.Writer
import PageSkins.Output
import PageSkins.Palette
import PageSkins.Profile
import PageSkins.ProfileStore
import PageSkins.Proofs.Backend.DeadBackend
import PageSkins.Proofs.Backend.ErrorAnswers
import PageSkins.Proofs.Backend.FetchOrder
import PageSkins.Proofs.Backend.Fetching
import PageSkins.Proofs.Backend.Requests
import PageSkins.Proofs.Backend.StandingClock
import PageSkins.Proofs.Breaker
import PageSkins.Proofs.Breaker.Overlap
import PageSkins.Proofs.Breaker.Slack
import PageSkins.Proofs.CommandLine.Backends
import PageSkins.Proofs.Composition
import PageSkins.Proofs.ContextFiles
import PageSkins.Proofs.Decimal.Digits
import PageSkins.Proofs.Decimal.Doubles
import PageSkins.Proofs.Decimal.Rounding
import PageSkins.Proofs.Disk
import PageSkins.Proofs.ExactAmount
import PageSkins.Proofs.Failing
import PageSkins.Proofs.Json.Records
import PageSkins.Proofs.Json.Texts
import PageSkins.Proofs.Lists
import PageSkins.Proofs.Markup.Addresses
import PageSkins.Proofs.Markup.AllowList
import PageSkins.Proofs.Markup.AttributeNames
import PageSkins.Proofs.Markup.BrowserReading
import PageSkins.Proofs.Markup.CalmBuilder
import PageSkins.Proofs.Markup.Containers
import PageSkins.Proofs.Markup.DecodedValues
import PageSkins.Proofs.Markup.EscapedText
import PageSkins.Proofs.Markup.ExactAttributes
import PageSkins.Proofs.Markup.JoinedText
import PageSkins.Proofs.Markup.Lexemes
import PageSkins.Proofs.Markup.OrderlyMarkup
import PageSkins.Proofs.Markup.OrderlyReading
import PageSkins.Proofs.Markup.OrderlyTrees
import PageSkins.Proofs.Markup.PlantedTrees
import PageSkins.Proofs.Markup.ReadReferences
import PageSkins.Proofs.Markup.ReducedMarkup
import PageSkins.Proofs.Markup.References
import PageSkins.Proofs.Markup.SettledReferences
import PageSkins.Proofs.Markup.SpelledValues
import PageSkins.Proofs.Markup.Stability
import PageSkins.Proofs.Markup.StyleValues
import PageSkins.Proofs.Markup.TreeAttributes
import PageSkins.Proofs.Markup.UnknownElements
import PageSkins.Proofs.Markup.WrittenMarkup
import PageSkins.Proofs.Markup.WrittenText
import PageSkins.Proofs.Markup.WrittenValues
import PageSkins.Proofs.Palette
import PageSkins.Proofs.Precedence
import PageSkins.Proofs.Profile
import PageSkins.Proofs.ProfileStore
import PageSkins.Proofs.ProfileStore.BadFiles
import PageSkins.Proofs.ProfileStore.Changes
import PageSkins.Proofs.ProfileStore.Confinement
import PageSkins.Proofs.ProfileStore.Files
import PageSkins.Proofs.ProfileStore.Flags
import PageSkins.Proofs.ProfileStore.Loading
import PageSkins.Proofs.ProfileStore.Refusals
import PageSkins.Proofs.ProfileStore.Reopening
import PageSkins.Proofs.ProfileStore.Selection
import PageSkins.Proofs.ProfileStore.Shelf
import PageSkins.Proofs.Publishing
import PageSkins.Proofs.Records
import PageSkins.Proofs.RecordsFiles
import PageSkins.Proofs.Resolution
import PageSkins.Proofs.Retrying
import PageSkins.Proofs.Retrying.Accounts
import PageSkins.Proofs.Retrying.Delays
import PageSkins.Proofs.Retrying.RunLaw
import PageSkins.Proofs.Stylesheet
import PageSkins.Proofs.Stylesheet.Respelling
import PageSkins.Proofs.Template.Contents
import PageSkins.Proofs.Template.Cutting
import PageSkins.Proofs.Template.Evaluations
import PageSkins.Proofs.Template.Interpolation
import PageSkins.Proofs.Template.ItemTemplates
import PageSkins.Proofs.Template.Limits
import PageSkins.Proofs.Template.NormalForm
import PageSkins.Proofs.Template.Pairing
import PageSkins.Proofs.Template.Printing
import PageSkins.Proofs.Template.Reading
import PageSkins.Proofs.Template.Seams
import PageSkins.Proofs.Template.Spelling
import PageSkins.Proofs.Template.TagForms
import PageSkins.Proofs.Text.Patterns
import PageSkins.Proofs.Text.Utf8
import PageSkins.Proofs.Toml.Escapes
import PageSkins.Proofs.Toml.Pairs
import PageSkins.Proofs.WebAddress.Hosts
import PageSkins.Proofs.WebAddress.NormalForm
import PageSkins.Proofs.WebAddress.Numbers
import PageSkins.Proofs.WebAddress.Paths
import PageSkins.Publishing
import PageSkins.Publishing.Workshop
import PageSkins.Record.Blog
import PageSkins.Record.Check
import PageSkins.Record.ContextFile
import PageSkins.Record.Effective
import PageSkins.Record.PageContext
import PageSkins.Record.Report
import PageSkins.Record.Skin
import PageSkins.RecordsFile
import PageSkins.Resolver
import PageSkins.Retry
import PageSkins.Settings
import PageSkins.Starter
import PageSkins.Stylesheet
import PageSkins.Template.Node
import PageSkins.Template.Page
import PageSkins.Template.Parser
import PageSkins.Template.Printer
import PageSkins.Template.Render
import PageSkins.Template.Tag
import PageSkins.Terminal.Table
import PageSkins.Terminal.Tagged
import PageSkins.Terminal.Wrap
import PageSkins.Text.Base64
import PageSkins.Text.Blank
import PageSkins.Text.Case
import PageSkins.Text.Digit
import PageSkins.Text.Escape
import PageSkins.Text.Fold
import PageSkins.Text.Printable
import PageSkins.Text.Ranges
import PageSkins.Text.Utf8
import PageSkins.Text.Width
import PageSkins.Text.Word
import PageSkins.Token
import PageSkins.Toml.Document
import PageSkins.Toml.Reader
import PageSkins.Value
import PageSkins.Value.Literal
import PageSkins.WebAddress
import PageSkins.WebAddress.Outline
import PageSkins.Yaml.Cursor
import PageSkins.Yaml.Node
import PageSkins.Yaml.Plain
import PageSkins.Yaml.Reader
import PageSkins.Yaml.Scalar
import PageSkins.Yaml.Token
import PageSkins.Yaml.Writer
