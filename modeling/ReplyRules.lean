import ReplyRules.Text.Lowercase
import ReplyRules.Regex.Basic
import ReplyRules.Text.Utf8
import ReplyRules.Number.Binary64
import ReplyRules.Json.Value
import ReplyRules.Text.Debug
import ReplyRules.Json.Error
import ReplyRules.Json.Scan
import ReplyRules.Json.StringReader
import ReplyRules.Json.NumberReader
import ReplyRules.Json.Reader
import ReplyRules.Json.Skip
import ReplyRules.Json.Record
import ReplyRules.Json.Printer
import ReplyRules.Text.Basic
import ReplyRules.Traffic.Resource
import ReplyRules.Reply.ResponseType
import ReplyRules.Reply.Base64
import ReplyRules.Reply.Payload
import ReplyRules.Time.Instant
import ReplyRules.Rule.MatchType
import ReplyRules.Rule.Basic
import ReplyRules.Rule.Validation
import ReplyRules.Rule.Template
import ReplyRules.Json.Fields
import ReplyRules.Rule.Record
import ReplyRules.Log.Entry
import ReplyRules.Log.EventLog
import ReplyRules.Matching.Matcher
import ReplyRules.Matching.Cache
import ReplyRules.Matching.RuleSet
import ReplyRules.Matching.Compilation
import ReplyRules.Rule.Exchange
import ReplyRules.Store.RuleBook
import ReplyRules.Toml.Basic
import ReplyRules.Toml.Scan
import ReplyRules.Toml.Text
import ReplyRules.Toml.Scalar
import ReplyRules.Toml.Document
import ReplyRules.Store.FileSystem
import ReplyRules.Store.FileStore
import ReplyRules.Config.Settings
import ReplyRules.Engine.Edit
import ReplyRules.Engine.Basic
import ReplyRules.Engine.View
import ReplyRules.Proofs.Matching.Filter
import ReplyRules.Proofs.Matching.Cache
import ReplyRules.Proofs.Matching.Survivors
import ReplyRules.Proofs.Matching.Answer
import ReplyRules.Proofs.Matching.Reuse
import ReplyRules.Proofs.Text.Utf8
import ReplyRules.Proofs.Json.Strings
import ReplyRules.Proofs.Json.Numbers
import ReplyRules.Proofs.Json.RoundTrip
import ReplyRules.Proofs.Rule.Record
import ReplyRules.Proofs.Rule.Exchange
import ReplyRules.Proofs.Store.RuleBook
import ReplyRules.Proofs.Engine.Calls
import ReplyRules.Proofs.Engine.Run
import ReplyRules.Proofs.Engine.Rollback
import ReplyRules.Proofs.Engine.Agreement
import ReplyRules.Proofs.Engine.Durability
import ReplyRules.Proofs.Engine.Import
import ReplyRules.Proofs.Json.SkipScalar
import ReplyRules.Proofs.Json.Members
import ReplyRules.Proofs.Store.Confinement
import ReplyRules.Proofs.Rule.Document
import ReplyRules.Proofs.Store.Restart
import ReplyRules.Proofs.Store.FileSystem
import ReplyRules.Proofs.Store.Interruption
import ReplyRules.Proofs.Matching.Numbering
import ReplyRules.Proofs.Matching.Glob
import ReplyRules.Proofs.Rule.Validation
import ReplyRules.Proofs.Matching.MatchType
import ReplyRules.Proofs.Log.EventLog
import ReplyRules.Proofs.Engine.History
import ReplyRules.Proofs.Engine.Edit
import ReplyRules.Proofs.Engine.Completeness
import ReplyRules.Proofs.Text.Blank
import ReplyRules.Proofs.Engine.Batch
import ReplyRules.Proofs.Engine.Frame
import ReplyRules.Proofs.Engine.Undisturbed
import ReplyRules.Proofs.Engine.Reopening
import ReplyRules.Proofs.Matching.Legacy
import ReplyRules.Proofs.Matching.Registration
import ReplyRules.Proofs.Matching.Report
import ReplyRules.Proofs.Text.Lowercase
import ReplyRules.Proofs.Engine.Search
import ReplyRules.Proofs.Reply.Base64
import ReplyRules.Proofs.Reply.Payload
import ReplyRules.Proofs.Json.Known
import ReplyRules.Proofs.Log.Entry
import ReplyRules.Proofs.Engine.Start
import ReplyRules.Proofs.Traffic.Members
