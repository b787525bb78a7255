import SchoolRegister.Application
import SchoolRegister.Argument
import SchoolRegister.Calendar.Date
import SchoolRegister.Calendar.Reading
import SchoolRegister.Calendar.Week
import SchoolRegister.Database.Cells
import SchoolRegister.Database.Config
import SchoolRegister.Database.Query
import SchoolRegister.Database.Schema
import SchoolRegister.Database.Server
import SchoolRegister.Database.Setup
import SchoolRegister.Failure
import SchoolRegister.Http.Address
import SchoolRegister.Http.Authority
import SchoolRegister.Http.Draft
import SchoolRegister.Http.Escape
import SchoolRegister.Http.Exchange
import SchoolRegister.Http.HostName
import SchoolRegister.Http.Route
import SchoolRegister.Json.Encoding
import SchoolRegister.Json.Reading
import SchoolRegister.LogLevel
import SchoolRegister.Number.Binary64
import SchoolRegister.Number.Decimal
import SchoolRegister.Number.Magnitude
import SchoolRegister.Number.Notation
import SchoolRegister.Number.Quantity
import SchoolRegister.Number.Reading
import SchoolRegister.Number.Rounding
import SchoolRegister.Permission
import SchoolRegister.Report.ClassSummary
import SchoolRegister.Report.Daily
import SchoolRegister.Report.Export
import SchoolRegister.Report.Ranking
import SchoolRegister.Report.Ranking.Merge
import SchoolRegister.Report.Ranking.Search
import SchoolRegister.Report.Rate
import SchoolRegister.Report.Weekly
import SchoolRegister.Role
import SchoolRegister.School.Grouping
import SchoolRegister.School.Record
import SchoolRegister.School.Register
import SchoolRegister.School.Store
import SchoolRegister.School.Student
import SchoolRegister.Service.Attendance
import SchoolRegister.Service.Reports
import SchoolRegister.Session
import SchoolRegister.Settings
import SchoolRegister.Sql.Lines
import SchoolRegister.Sql.Script
import SchoolRegister.Text.Basic
import SchoolRegister.Text.Blank
import SchoolRegister.Text.Digit
import SchoolRegister.Text.Direction
import SchoolRegister.Text.Integer
import SchoolRegister.Text.Normal.Composition
import SchoolRegister.Text.Normal.Decomposition
import SchoolRegister.Text.Normal.Folding
import SchoolRegister.Text.Normal.Table
import SchoolRegister.Text.Printable
import SchoolRegister.Text.Punycode
import SchoolRegister.Text.Quoted
import SchoolRegister.Text.Surrogate
import SchoolRegister.Text.Utf8
import SchoolRegister.Text.Word
import SchoolRegister.Value.Basic
import SchoolRegister.Value.Naming
import SchoolRegister.Value.Quantity
import SchoolRegister.Value.Shown
import SchoolRegister.Value.Transmitted
import SchoolRegister.Proofs.Service.Conduct
import SchoolRegister.Proofs.Session.History
import SchoolRegister.Proofs.School.Store
import SchoolRegister.Proofs.Session.Records
import SchoolRegister.Proofs.Calendar.Ordinal
import SchoolRegister.Proofs.Service.Reading
import SchoolRegister.Proofs.Session.ClassView
import SchoolRegister.Proofs.Outcome
import SchoolRegister.Proofs.Report.Daily
import SchoolRegister.Proofs.Report.Weekly
import SchoolRegister.Proofs.Report.ClassSummary
import SchoolRegister.Proofs.Service.Agreement
import SchoolRegister.Proofs.Session.FinalMarks
import SchoolRegister.Proofs.Database.Execution
import SchoolRegister.Proofs.Database.Calls
import SchoolRegister.Proofs.Database.Transactions
import SchoolRegister.Proofs.Number.Percentage
import SchoolRegister.Proofs.Groups
import SchoolRegister.Proofs.Report.Tally
import SchoolRegister.Proofs.Service.Tally
import SchoolRegister.Proofs.Session.Invisible
import SchoolRegister.Proofs.Http.Reach
import SchoolRegister.Proofs.Permission
import SchoolRegister.Proofs.Session.Authorization
import SchoolRegister.Proofs.Service.Names
import SchoolRegister.Proofs.Service.Correspondence
import SchoolRegister.Proofs.Calendar.Written
import SchoolRegister.Proofs.Database.Refinement
import SchoolRegister.Proofs.Service.Notes
import SchoolRegister.Proofs.Database.Rows
import SchoolRegister.Proofs.Argument
import SchoolRegister.Proofs.Session.ReadPaths
import SchoolRegister.Proofs.Csv
import SchoolRegister.Proofs.Report.Export
import SchoolRegister.Proofs.Session.Downloads
import SchoolRegister.Proofs.Service.Marking
import SchoolRegister.Proofs.Session.MarkRequests
import SchoolRegister.Proofs.Sql.Script
import SchoolRegister.Proofs.Sql.Lines
import SchoolRegister.Proofs.Sql.Choices
import SchoolRegister.Proofs.Sql.Layout
import SchoolRegister.Proofs.Calendar.Weeks
import SchoolRegister.Proofs.Report.MondayWeeks
import SchoolRegister.Proofs.Report.DailyCounts
import SchoolRegister.Proofs.Service.Clients
import SchoolRegister.Proofs.Session.Linearization
import SchoolRegister.Proofs.Service.WrittenDates
import SchoolRegister.Proofs.Session.ReturnedDates
import SchoolRegister.Proofs.Number.Value
import SchoolRegister.Proofs.Number.Hundredths
import SchoolRegister.Proofs.Number.Difference
import SchoolRegister.Proofs.Number.Positional
import SchoolRegister.Proofs.Report.Rate
import SchoolRegister.Proofs.Report.Trends
import SchoolRegister.Proofs.Report.Averages
import SchoolRegister.Proofs.Service.RosterView
import SchoolRegister.Proofs.Session.DailyView
import SchoolRegister.Proofs.Text.Trimming
import SchoolRegister.Proofs.Sql.Quotation
import SchoolRegister.Proofs.Sql.Statements
import SchoolRegister.Proofs.Sql.Comments
import SchoolRegister.Proofs.Report.Selection
import SchoolRegister.Proofs.Service.Reporting
import SchoolRegister.Proofs.Number.Sizes
import SchoolRegister.Proofs.Session.Bounds
import SchoolRegister.Proofs.Report.Completion
import SchoolRegister.Proofs.Session.ReportOutcomes
import SchoolRegister.Proofs.Database.Setup
import SchoolRegister.Proofs.Calendar.Timestamp
import SchoolRegister.Proofs.Session.Spellings
import SchoolRegister.Proofs.Session.Periods
import SchoolRegister.Proofs.Report.FileName
import SchoolRegister.Proofs.Session.Attachments
import SchoolRegister.Proofs.Calendar.Mondays
