import MediaQuery.Application
import MediaQuery.Command.Arguments
import MediaQuery.Command.Line
import MediaQuery.Command.Run
import MediaQuery.Dict
import MediaQuery.Environment
import MediaQuery.Environment.Record
import MediaQuery.Feature
import MediaQuery.FilePath
import MediaQuery.Format.Json
import MediaQuery.Format.Yaml.Cursor
import MediaQuery.Format.Yaml.Document
import MediaQuery.Format.Yaml.Plain
import MediaQuery.Log.Config
import MediaQuery.Log.Logger
import MediaQuery.Log.Record
import MediaQuery.Log.Stamp
import MediaQuery.Log.State
import MediaQuery.Log.Template
import MediaQuery.Main
import MediaQuery.Matching
import MediaQuery.Measure
import MediaQuery.Number.Binary64
import MediaQuery.Number.Numeral
import MediaQuery.Number.Shortest
import MediaQuery.Query.Basic
import MediaQuery.Query.Clause
import MediaQuery.Query.Comment
import MediaQuery.Query.Parser
import MediaQuery.Query.Test
import MediaQuery.Query.Token
import MediaQuery.RootSize
import MediaQuery.Session.Basic
import MediaQuery.Session.Library
import MediaQuery.Settings.Basic
import MediaQuery.Settings.Expansion
import MediaQuery.Settings.Holder
import MediaQuery.Settings.Overlay
import MediaQuery.Settings.Units
import MediaQuery.Terminal.Emoji
import MediaQuery.Terminal.EmojiTable
import MediaQuery.Terminal.Markup
import MediaQuery.Terminal.Table
import MediaQuery.Terminal.Wrap
import MediaQuery.Text.CaseTable
import MediaQuery.Text.Casing
import MediaQuery.Text.Character
import MediaQuery.Text.Columns
import MediaQuery.Text.HiddenTable
import MediaQuery.Text.Quoted
import MediaQuery.Text.WidthTable
import MediaQuery.Text.WordTable
import MediaQuery.Validation
import MediaQuery.Value
import MediaQuery.Proofs.Dict
import MediaQuery.Proofs.Query.Comment
import MediaQuery.Proofs.Text.Pattern
import MediaQuery.Proofs.Query.CommentPattern
import MediaQuery.Proofs.Text.Parts
import MediaQuery.Proofs.Text.Casing
import MediaQuery.Proofs.Query.Keyword
import MediaQuery.Proofs.Query.Test
import MediaQuery.Proofs.Query.Clause
import MediaQuery.Proofs.Query.Acceptance
import MediaQuery.Proofs.Query.Canonical
import MediaQuery.Proofs.Matching.Meaning
import MediaQuery.Proofs.Query.RoundTrip
import MediaQuery.Proofs.Session.History
import MediaQuery.Proofs.Session.Joined
import MediaQuery.Proofs.Session.Commented
import MediaQuery.Proofs.Number.Rounding
import MediaQuery.Proofs.Measure.Ratio
import MediaQuery.Proofs.Text.LetterCase
import MediaQuery.Proofs.Matching.Failure
import MediaQuery.Proofs.Query.Caseless
import MediaQuery.Proofs.Session.Caseless
import MediaQuery.Proofs.Session.Effect
import MediaQuery.Proofs.Session.Journal
import MediaQuery.Proofs.Session.Sharing
import MediaQuery.Proofs.Session.Isolation
import MediaQuery.Proofs.Session.Identity
import MediaQuery.Proofs.Session.Roots
import MediaQuery.Proofs.Environment.Lookup
import MediaQuery.Proofs.Matching.Mentioned
import MediaQuery.Proofs.Environment.Record
import MediaQuery.Proofs.Matching.Records
import MediaQuery.Proofs.Settings.Overlay
import MediaQuery.Proofs.Settings.Loading
import MediaQuery.Proofs.Settings.Variables
import MediaQuery.Proofs.Settings.Precedence
import MediaQuery.Proofs.Terminal.Markup
import MediaQuery.Proofs.Command.Runs
import MediaQuery.Proofs.Command.Check
import MediaQuery.Proofs.Query.WellFormed
import MediaQuery.Proofs.Query.Spacing
import MediaQuery.Proofs.Query.Layout
import MediaQuery.Proofs.Matching.Bounds
import MediaQuery.Proofs.Query.BlankValue
import MediaQuery.Proofs.Query.Spelling
import MediaQuery.Proofs.Number.Exact
import MediaQuery.Proofs.Measure.Literal
import MediaQuery.Proofs.Measure.Unit
import MediaQuery.Proofs.Number.Nearest
import MediaQuery.Proofs.Number.Whole
import MediaQuery.Proofs.Number.Text
import MediaQuery.Proofs.Measure.Numeric
import MediaQuery.Proofs.Measure.Quotient
import MediaQuery.Proofs.Matching.Numbers
import MediaQuery.Proofs.Command.Numbers
import MediaQuery.Proofs.Query.Lone
import MediaQuery.Proofs.Session.Lone
import MediaQuery.Proofs.Measure.Spacing
import MediaQuery.Proofs.Matching.Spacing
import MediaQuery.Proofs.Settings.Expansion
import MediaQuery.Proofs.Settings.Holder
import MediaQuery.Proofs.Environment.Renaming
import MediaQuery.Proofs.Log.Setups
