import FieldCheck.Catalogue
import FieldCheck.Display.EmojiTable
import FieldCheck.Display.Markup
import FieldCheck.Display.Picture
import FieldCheck.Display.Table
import FieldCheck.Display.Trace
import FieldCheck.Display.Wrap
import FieldCheck.Evaluation.Fault
import FieldCheck.Evaluation.Outcome
import FieldCheck.Evaluation.Run
import FieldCheck.Form.Basic
import FieldCheck.Form.Coercion
import FieldCheck.Form.Group
import FieldCheck.Form.Round
import FieldCheck.Form.Session
import FieldCheck.Form.Settings
import FieldCheck.Media.Guess
import FieldCheck.Media.Table
import FieldCheck.Message.Default
import FieldCheck.Message.Fault
import FieldCheck.Message.Formatted
import FieldCheck.Message.Layout
import FieldCheck.Message.Template
import FieldCheck.Moment.Date
import FieldCheck.Moment.Iso
import FieldCheck.Moment.Names
import FieldCheck.Moment.Pattern
import FieldCheck.Moment.Shape
import FieldCheck.Moment.Written
import FieldCheck.Number.Decimal
import FieldCheck.Number.Double
import FieldCheck.Number.Numeral
import FieldCheck.Number.Order
import FieldCheck.Number.Places
import FieldCheck.Number.Shortest
import FieldCheck.Regex.Branches
import FieldCheck.Regex.CharSet
import FieldCheck.Regex.Escape
import FieldCheck.Regex.Fault
import FieldCheck.Regex.Flags
import FieldCheck.Regex.Group
import FieldCheck.Regex.Layout
import FieldCheck.Regex.Matcher
import FieldCheck.Regex.Node
import FieldCheck.Regex.Opening
import FieldCheck.Regex.Program
import FieldCheck.Regex.Repetition
import FieldCheck.Regex.Same
import FieldCheck.Regex.Scan
import FieldCheck.Regex.Switch
import FieldCheck.Registry.Basic
import FieldCheck.Registry.Custom
import FieldCheck.Registry.Standard
import FieldCheck.Rule.Address
import FieldCheck.Rule.Check
import FieldCheck.Rule.Choice
import FieldCheck.Rule.Context
import FieldCheck.Rule.Crash
import FieldCheck.Rule.Dates
import FieldCheck.Rule.Email
import FieldCheck.Rule.Files
import FieldCheck.Rule.Letters
import FieldCheck.Rule.Presence
import FieldCheck.Rule.Routine
import FieldCheck.Rule.Size
import FieldCheck.Spec.Arguments
import FieldCheck.Spec.Basic
import FieldCheck.Spec.Fault
import FieldCheck.Spec.Name
import FieldCheck.Text.Alphanumeric
import FieldCheck.Text.Blank
import FieldCheck.Text.Case
import FieldCheck.Text.CaseTable
import FieldCheck.Text.Columns
import FieldCheck.Text.Digit
import FieldCheck.Text.Pieces
import FieldCheck.Text.Printable
import FieldCheck.Text.Quoted
import FieldCheck.Text.Ranges
import FieldCheck.Value.Basic
import FieldCheck.Value.Path
import FieldCheck.Value.Reading
import FieldCheck.Value.Same
import FieldCheck.Value.Written
import FieldCheck.Web.Host
import FieldCheck.Web.HostTable
import FieldCheck.Web.Number
import FieldCheck.Web.Punycode
import FieldCheck.Web.Url
import FieldCheck.Proofs.Routine
import FieldCheck.Proofs.Run
import FieldCheck.Proofs.Modes
import FieldCheck.Proofs.Calls
import FieldCheck.Proofs.Arguments
import FieldCheck.Proofs.Forms
import FieldCheck.Proofs.Reread
import FieldCheck.Proofs.Rounds
import FieldCheck.Proofs.Race
import FieldCheck.Proofs.Setup
import FieldCheck.Proofs.Superseded
import FieldCheck.Proofs.Tasks
import FieldCheck.Proofs.Fields
import FieldCheck.Proofs.Moments
import FieldCheck.Proofs.Names
import FieldCheck.Proofs.Portable
import FieldCheck.Proofs.Notations
import FieldCheck.Proofs.Registries
import FieldCheck.Proofs.Templates
import FieldCheck.Proofs.Messages
import FieldCheck.Proofs.Scanning
import FieldCheck.Proofs.Verdict
import FieldCheck.Proofs.Failures
import FieldCheck.Proofs.Sharing
import FieldCheck.Proofs.Stopping
import FieldCheck.Proofs.NormalForm
import FieldCheck.Proofs.Calendar
import FieldCheck.Proofs.CalendarEnds
import FieldCheck.Proofs.Matching
import FieldCheck.Proofs.Addresses
import FieldCheck.Proofs.Sizes
import FieldCheck.Proofs.Rounding
import FieldCheck.Proofs.Numerals
import FieldCheck.Proofs.WrittenDates
import FieldCheck.Proofs.Shapes
import FieldCheck.Proofs.Readers
import FieldCheck.Proofs.PlainPatterns
import FieldCheck.Proofs.ShapePatterns
import FieldCheck.Proofs.IntegerTexts
import FieldCheck.Proofs.ArgumentCrashes
import FieldCheck.Proofs.DateRanges
import FieldCheck.Proofs.RegisteredNames
import FieldCheck.Proofs.ParsedRules
import FieldCheck.Proofs.Quantities
import FieldCheck.Proofs.Confirmation
import FieldCheck.Proofs.Grouping
import FieldCheck.Proofs.Layout
import FieldCheck.Proofs.Spelling
import FieldCheck.Proofs.SnakeCase
import FieldCheck.Proofs.Installation
import FieldCheck.Proofs.TraceLines
import FieldCheck.Proofs.FileTypes
