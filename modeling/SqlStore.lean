import SqlStore.Binary64.Basic
import SqlStore.Binary64.Decimal
import SqlStore.Binary64.Layout
import SqlStore.Column
import SqlStore.CommandLine
import SqlStore.Database
import SqlStore.Database.Journal
import SqlStore.Database.Run
import SqlStore.Error
import SqlStore.Fault
import SqlStore.Integer
import SqlStore.Json
import SqlStore.LogFilter
import SqlStore.LogFilter.Pattern
import SqlStore.Main
import SqlStore.Proofs.Agreement
import SqlStore.Proofs.Basic
import SqlStore.Proofs.Binary64.Decimal
import SqlStore.Proofs.Binary64.Integral
import SqlStore.Proofs.Binary64.Layout
import SqlStore.Proofs.Binary64.Narrowing
import SqlStore.Proofs.Binary64.OfInt
import SqlStore.Proofs.Binary64.Rounding
import SqlStore.Proofs.Database.Conformance
import SqlStore.Proofs.Database.InPlace
import SqlStore.Proofs.Database.Inserted
import SqlStore.Proofs.Database.Interleaving
import SqlStore.Proofs.Database.JoinPairs
import SqlStore.Proofs.Database.JoinWhere
import SqlStore.Proofs.Database.KeyJoin
import SqlStore.Proofs.Database.PrimaryKey
import SqlStore.Proofs.Database.Query
import SqlStore.Proofs.Database.Reached
import SqlStore.Proofs.Database.Rectangular
import SqlStore.Proofs.Index
import SqlStore.Proofs.Procedure
import SqlStore.Proofs.Row
import SqlStore.Proofs.Row.Equality
import SqlStore.Proofs.Row.Layout
import SqlStore.Proofs.Row.Merge
import SqlStore.Proofs.Service.ColumnOrder
import SqlStore.Proofs.Session.Schema
import SqlStore.Proofs.Statement.Bounds
import SqlStore.Proofs.Statement.Cursor
import SqlStore.Proofs.Statement.Following
import SqlStore.Proofs.Statement.Grammar
import SqlStore.Proofs.Statement.Opening
import SqlStore.Proofs.Statement.Phrase
import SqlStore.Proofs.Statement.Reads
import SqlStore.Proofs.Statement.Texts
import SqlStore.Proofs.Table.Addressed
import SqlStore.Proofs.Table.Calls
import SqlStore.Proofs.Table.Commuting
import SqlStore.Proofs.Table.Conformance
import SqlStore.Proofs.Table.Fitting
import SqlStore.Proofs.Table.FloatKey
import SqlStore.Proofs.Table.InPlace
import SqlStore.Proofs.Table.Indexed
import SqlStore.Proofs.Table.Inserted
import SqlStore.Proofs.Table.Plain
import SqlStore.Proofs.Table.Refusals
import SqlStore.Proofs.Table.Unique
import SqlStore.Proofs.Text
import SqlStore.Proofs.Token.Integers
import SqlStore.Proofs.Token.Layout
import SqlStore.Proofs.Token.Scanned
import SqlStore.Proofs.Token.Single
import SqlStore.Proofs.Token.Spelling
import SqlStore.Proofs.Token.Variants
import SqlStore.Proofs.Value.Equality
import SqlStore.Proofs.Value.Shown
import SqlStore.Row
import SqlStore.Service
import SqlStore.Service.Form
import SqlStore.Session
import SqlStore.SqlType
import SqlStore.Statement
import SqlStore.Statement.Grammar
import SqlStore.Statement.Reader
import SqlStore.Table
import SqlStore.Text.Alphabetic
import SqlStore.Text.Backspace
import SqlStore.Text.Blank
import SqlStore.Text.BreakClass
import SqlStore.Text.Bytes
import SqlStore.Text.CharSet
import SqlStore.Text.Cluster
import SqlStore.Text.GraphemeExtend
import SqlStore.Text.Numeric
import SqlStore.Text.Quoted
import SqlStore.Text.Runs
import SqlStore.Text.Unprintable
import SqlStore.Text.Upper
import SqlStore.Token
import SqlStore.Token.Scan
import SqlStore.Value
