import NodeReport.Availability
import NodeReport.ByteCount
import NodeReport.Calendar.Day
import NodeReport.Calendar.DayText
import NodeReport.Calendar.Instant
import NodeReport.Calendar.Month
import NodeReport.Calendar.Window
import NodeReport.Command.Arguments
import NodeReport.Command.Location
import NodeReport.Command.Run
import NodeReport.Json
import NodeReport.Keyed
import NodeReport.Main
import NodeReport.Notice
import NodeReport.Number.Binary64
import NodeReport.Number.Decimal
import NodeReport.Number.Extended
import NodeReport.Number.Reading
import NodeReport.Page.Basic
import NodeReport.Page.Html
import NodeReport.Page.JsonDocument
import NodeReport.Page.Link
import NodeReport.Page.Rendering
import NodeReport.Page.Report
import NodeReport.Proofs.Availability
import NodeReport.Proofs.Availability.Questions
import NodeReport.Proofs.ByteCount
import NodeReport.Proofs.ByteCount.Display
import NodeReport.Proofs.ByteCount.Grammar
import NodeReport.Proofs.ByteCount.Number
import NodeReport.Proofs.Calendar.Day
import NodeReport.Proofs.Calendar.DayText
import NodeReport.Proofs.Calendar.Month
import NodeReport.Proofs.Calendar.Range
import NodeReport.Proofs.Calendar.RequestDay
import NodeReport.Proofs.Calendar.Step
import NodeReport.Proofs.Calendar.TextOrder
import NodeReport.Proofs.Calendar.Window
import NodeReport.Proofs.Command.Run
import NodeReport.Proofs.Json
import NodeReport.Proofs.Keyed
import NodeReport.Proofs.Number.Digits
import NodeReport.Proofs.Number.FixedPlaces
import NodeReport.Proofs.Number.Literal
import NodeReport.Proofs.Number.Nearest
import NodeReport.Proofs.Number.Reading
import NodeReport.Proofs.Number.Rounding
import NodeReport.Proofs.Page.Calendar
import NodeReport.Proofs.Page.CodeLink
import NodeReport.Proofs.Page.Day
import NodeReport.Proofs.Page.Html
import NodeReport.Proofs.Page.Isolation
import NodeReport.Proofs.Page.JsonDocument
import NodeReport.Proofs.Page.Link
import NodeReport.Proofs.Page.Locality
import NodeReport.Proofs.Page.Network
import NodeReport.Proofs.Page.Schema
import NodeReport.Proofs.Store.Answer
import NodeReport.Proofs.Store.Calls
import NodeReport.Proofs.Store.Conversion
import NodeReport.Proofs.Store.DayValue
import NodeReport.Proofs.Store.Fetch
import NodeReport.Proofs.Store.Files
import NodeReport.Proofs.Store.Keeping
import NodeReport.Proofs.Store.Locality
import NodeReport.Proofs.Store.Order
import NodeReport.Proofs.Store.Place
import NodeReport.Proofs.Store.Reading
import NodeReport.Proofs.Store.Registry
import NodeReport.Proofs.Store.Schema
import NodeReport.Proofs.Store.Select
import NodeReport.Proofs.Store.Summary
import NodeReport.Proofs.Store.Tables
import NodeReport.Proofs.Store.Template
import NodeReport.Proofs.Store.Value
import NodeReport.Proofs.Table.Basic
import NodeReport.Proofs.Table.ColumnTotals
import NodeReport.Proofs.Table.Grouping
import NodeReport.Proofs.Table.Partition
import NodeReport.Proofs.Table.Total
import NodeReport.Proofs.Text.Basic
import NodeReport.Proofs.Text.UrlEncoding
import NodeReport.Proofs.Text.Markup
import NodeReport.Proofs.Text.Scanner
import NodeReport.Proofs.Text.Utf8
import NodeReport.Store.Address
import NodeReport.Store.Database
import NodeReport.Store.DatabaseError
import NodeReport.Store.DatabaseFile
import NodeReport.Store.Files
import NodeReport.Store.Place
import NodeReport.Store.ReportStore
import NodeReport.Store.Schema
import NodeReport.Store.Select
import NodeReport.Store.Selection
import NodeReport.Store.Snapshot
import NodeReport.Store.Statement
import NodeReport.Store.Value
import NodeReport.Table.Basic
import NodeReport.Table.Cell
import NodeReport.Table.Grouping
import NodeReport.Table.Kind
import NodeReport.Table.Source
import NodeReport.Table.Total
import NodeReport.Text.Basic
import NodeReport.Text.CharWidth
import NodeReport.Text.Extender
import NodeReport.Text.Markup
import NodeReport.Text.Pictograph
import NodeReport.Text.Quoted
import NodeReport.Text.UrlEncoding
import NodeReport.Text.Utf8
import NodeReport.Text.Width
