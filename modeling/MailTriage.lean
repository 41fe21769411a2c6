import MailTriage.Action
import MailTriage.Batch.Apply
import MailTriage.Batch.Plan
import MailTriage.Batch.Run
import MailTriage.Calendar.Date
import MailTriage.Calendar.Iso
import MailTriage.Calendar.Moment
import MailTriage.Command.Basic
import MailTriage.Command.Run
import MailTriage.Condition.Basic
import MailTriage.Condition.Parse
import MailTriage.Console.Markup
import MailTriage.Console.Output
import MailTriage.Document.Basic
import MailTriage.Document.Notation
import MailTriage.Files
import MailTriage.Label.Basic
import MailTriage.Log.Journal
import MailTriage.Log.Level
import MailTriage.Log.RotatingFile
import MailTriage.Mail.Address
import MailTriage.Mail.Document
import MailTriage.Mail.Pending
import MailTriage.Mail.Thread
import MailTriage.Mail.View
import MailTriage.Main
import MailTriage.Number.Binary64
import MailTriage.Number.Decimal
import MailTriage.Number.Whole
import MailTriage.Pattern
import MailTriage.Proofs.Batch.Completion
import MailTriage.Proofs.Batch.Consistency
import MailTriage.Proofs.Batch.Effect
import MailTriage.Proofs.Batch.Failed
import MailTriage.Proofs.Batch.Fetch
import MailTriage.Proofs.Batch.Isolation
import MailTriage.Proofs.Batch.Labels
import MailTriage.Proofs.Batch.Operations
import MailTriage.Proofs.Batch.Plan
import MailTriage.Proofs.Batch.Preview
import MailTriage.Proofs.Batch.Report
import MailTriage.Proofs.Batch.Steps
import MailTriage.Proofs.Batch.Turns
import MailTriage.Proofs.Batch.Waiting
import MailTriage.Proofs.Collection
import MailTriage.Proofs.Condition.Closing
import MailTriage.Proofs.Condition.Excess
import MailTriage.Proofs.Condition.Layouts
import MailTriage.Proofs.Condition.Parentheses
import MailTriage.Proofs.Condition.Reading
import MailTriage.Proofs.Condition.RoundTrip
import MailTriage.Proofs.Except
import MailTriage.Proofs.Files
import MailTriage.Proofs.Label.Chain
import MailTriage.Proofs.Label.Creation
import MailTriage.Proofs.Label.Growth
import MailTriage.Proofs.Label.Levels
import MailTriage.Proofs.LetterCase
import MailTriage.Proofs.LowerCase
import MailTriage.Proofs.Mail.Addresses
import MailTriage.Proofs.Mail.Dates
import MailTriage.Proofs.Mail.Headers
import MailTriage.Proofs.Mail.ListHeader
import MailTriage.Proofs.Mail.Omission
import MailTriage.Proofs.Mail.Window
import MailTriage.Proofs.Number.Rounding
import MailTriage.Proofs.Parents
import MailTriage.Proofs.Pattern.DisplayName
import MailTriage.Proofs.Pattern.Enclosed
import MailTriage.Proofs.Pattern.Escape
import MailTriage.Proofs.Pattern.Expression
import MailTriage.Proofs.Pattern.Found
import MailTriage.Proofs.Pattern.Slashed
import MailTriage.Proofs.Regex.Causes
import MailTriage.Proofs.Regex.Matches
import MailTriage.Proofs.Regex.Readers
import MailTriage.Proofs.Regex.Ways
import MailTriage.Proofs.Repetition
import MailTriage.Proofs.Rule.Columns
import MailTriage.Proofs.Rule.Faults
import MailTriage.Proofs.Rule.Numbering
import MailTriage.Proofs.Rule.Refusal
import MailTriage.Proofs.Rule.Rows
import MailTriage.Proofs.Settings.Config
import MailTriage.Proofs.Settings.Saved
import MailTriage.Proofs.Stages
import MailTriage.Proofs.Stats.Duration
import MailTriage.Proofs.Stats.Ledger
import MailTriage.Proofs.Store.Replay
import MailTriage.Proofs.Trim
import MailTriage.Proofs.Unmatched
import MailTriage.Proofs.Words
import MailTriage.Regex.Basic
import MailTriage.Regex.CharTest
import MailTriage.Regex.Error
import MailTriage.Regex.Item
import MailTriage.Regex.Parse
import MailTriage.Regex.Reader
import MailTriage.Regex.Search
import MailTriage.Rule.Basic
import MailTriage.Rule.Cell
import MailTriage.Rule.Evaluate
import MailTriage.Rule.Table
import MailTriage.Session
import MailTriage.Settings.Config
import MailTriage.Settings.Environment
import MailTriage.Settings.Field
import MailTriage.Stats.Basic
import MailTriage.Stats.Document
import MailTriage.Store.Basic
import MailTriage.Store.Mailbox
import MailTriage.Text.Blank
import MailTriage.Text.Category
import MailTriage.Text.CategoryTable
import MailTriage.Text.CharName
import MailTriage.Text.CharNameTable
import MailTriage.Text.CharNameTable.Ancient
import MailTriage.Text.CharNameTable.EastAsian
import MailTriage.Text.CharNameTable.Letters
import MailTriage.Text.CharNameTable.Pictures
import MailTriage.Text.CharNameTable.Scripts
import MailTriage.Text.CharNameTable.Symbols
import MailTriage.Text.Csv
import MailTriage.Text.LetterCase
import MailTriage.Text.LetterCaseTable
import MailTriage.Text.NameRun
import MailTriage.Text.Path
import MailTriage.Text.Quoted
import MailTriage.Text.Split
import MailTriage.Proofs.LowerCase
