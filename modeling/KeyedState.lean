import KeyedState.Context.Basic
import KeyedState.Context.Json
import KeyedState.Context.Row
import KeyedState.Decimal.Binary64
import KeyedState.Decimal.Integer
import KeyedState.Decimal.Layout
import KeyedState.Decimal.Shortest
import KeyedState.Error
import KeyedState.Event.Delete
import KeyedState.Event.Record
import KeyedState.Event.Values
import KeyedState.Json.Basic
import KeyedState.Json.Decode
import KeyedState.Json.Document
import KeyedState.Json.Literal
import KeyedState.Json.Printer
import KeyedState.Json.Token
import KeyedState.KeyMap.Basic
import KeyedState.KeyMap.Entries
import KeyedState.Matching.Conditions
import KeyedState.Matching.Match
import KeyedState.Matching.Parameters
import KeyedState.Matching.Position
import KeyedState.Matching.Predicate
import KeyedState.Pattern.Basic
import KeyedState.Pattern.Cache
import KeyedState.Proofs.Decimal.Denoted
import KeyedState.Proofs.Decimal.Numeral
import KeyedState.Proofs.Decimal.Readers
import KeyedState.Proofs.Decimal.Spelling
import KeyedState.Proofs.Event.Delete
import KeyedState.Proofs.Event.Record
import KeyedState.Proofs.Except
import KeyedState.Proofs.Json.Maps
import KeyedState.Proofs.Json.ReadBack
import KeyedState.Proofs.Json.Record
import KeyedState.Proofs.Json.ShortForm
import KeyedState.Proofs.Json.Spelled
import KeyedState.Proofs.KeyMap.InsertAll
import KeyedState.Proofs.Matching.Complement
import KeyedState.Proofs.Matching.Equality
import KeyedState.Proofs.Matching.Extraction
import KeyedState.Proofs.Matching.LiteralParameters
import KeyedState.Proofs.Matching.Meaning
import KeyedState.Proofs.Matching.OwnCounts
import KeyedState.Proofs.Matching.OwnDescription
import KeyedState.Proofs.Matching.ReadConditions
import KeyedState.Proofs.Matching.Recorded
import KeyedState.Proofs.Matching.RowConditions
import KeyedState.Proofs.Matching.Spelled
import KeyedState.Proofs.Pattern.Cache
import KeyedState.Proofs.Pattern.Grammar
import KeyedState.Proofs.Pattern.IgnoredCase
import KeyedState.Proofs.Pattern.Spelled
import KeyedState.Proofs.Pattern.Whole
import KeyedState.Proofs.Regex.ClassEnding
import KeyedState.Proofs.Regex.Ending
import KeyedState.Proofs.Regex.Matching
import KeyedState.Proofs.Regex.TokenEnding
import KeyedState.Proofs.Regex.Wrapping
import KeyedState.Proofs.Settings.Layers
import KeyedState.Proofs.Settings.Readers
import KeyedState.Proofs.Settings.Times
import KeyedState.Proofs.Settings.Validation
import KeyedState.Proofs.Settings.Written
import KeyedState.Proofs.Storage.Live
import KeyedState.Proofs.Storage.Passing
import KeyedState.Proofs.Storage.SameLive
import KeyedState.Proofs.Store.Activity
import KeyedState.Proofs.Store.Alone
import KeyedState.Proofs.Store.Atomicity
import KeyedState.Proofs.Store.DisjointWrites
import KeyedState.Proofs.Store.Expiry
import KeyedState.Proofs.Store.Failure
import KeyedState.Proofs.Store.Independence
import KeyedState.Proofs.Store.KeyOrder
import KeyedState.Proofs.Store.Life
import KeyedState.Proofs.Store.Lifetime
import KeyedState.Proofs.Store.LockExclusion
import KeyedState.Proofs.Store.LockProgress
import KeyedState.Proofs.Store.LockRemoval
import KeyedState.Proofs.Store.LockStep
import KeyedState.Proofs.Store.OneKey
import KeyedState.Proofs.Store.PatternDeletion
import KeyedState.Proofs.Store.Purging
import KeyedState.Proofs.Store.Renewal
import KeyedState.Proofs.Store.RowDeletion
import KeyedState.Proofs.Store.SequentialOrder
import KeyedState.Proofs.Store.ThreadStep
import KeyedState.Proofs.Store.TimeToLive
import KeyedState.Proofs.Template.Collision
import KeyedState.Proofs.Template.Composition
import KeyedState.Proofs.Template.Literal
import KeyedState.Proofs.Template.Models
import KeyedState.Proofs.Template.NormalForm
import KeyedState.Proofs.Template.Placeholder
import KeyedState.Proofs.Template.Rendered
import KeyedState.Proofs.Template.Renders
import KeyedState.Proofs.Template.Traversal
import KeyedState.Proofs.Time.Saturation
import KeyedState.Proofs.Unicode.LowerCase
import KeyedState.Regex.Basic
import KeyedState.Regex.Class
import KeyedState.Regex.Escape
import KeyedState.Regex.Expr
import KeyedState.Regex.Fault
import KeyedState.Regex.Flags
import KeyedState.Regex.Form
import KeyedState.Regex.Pattern
import KeyedState.Regex.Property
import KeyedState.Regex.Size.Basic
import KeyedState.Regex.Size.Letters
import KeyedState.Regex.Size.Whole
import KeyedState.Regex.Size.Words
import KeyedState.Regex.Token
import KeyedState.Settings.Basic
import KeyedState.Settings.Json
import KeyedState.Settings.Layer
import KeyedState.Settings.Load
import KeyedState.Settings.Logging
import KeyedState.Settings.Number
import KeyedState.Storage.Memory
import KeyedState.Storage.Sweeper
import KeyedState.Store.History
import KeyedState.Store.Interleaving
import KeyedState.Store.KeyLocks
import KeyedState.Store.Operations
import KeyedState.Store.Procedure
import KeyedState.Store.Request
import KeyedState.Store.Workers
import KeyedState.Template.Node
import KeyedState.Template.Path
import KeyedState.Text.Blank
import KeyedState.Text.Quoted
import KeyedState.Text.Search
import KeyedState.Time.Clock
import KeyedState.Time.Duration
import KeyedState.Time.Instant
import KeyedState.Time.Json
import KeyedState.Unicode.Age
import KeyedState.Unicode.BinaryProperty
import KeyedState.Unicode.CaseFolding
import KeyedState.Unicode.CharSet
import KeyedState.Unicode.GeneralCategory
import KeyedState.Unicode.GraphemeBreak
import KeyedState.Unicode.LowerCase
import KeyedState.Unicode.Newest
import KeyedState.Unicode.Script
import KeyedState.Unicode.ScriptExtension
import KeyedState.Unicode.SentenceBreak
import KeyedState.Unicode.Utf8
import KeyedState.Unicode.WordBreak
