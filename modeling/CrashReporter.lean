import CrashReporter.Application.Basic
import CrashReporter.Application.Breadcrumbs
import CrashReporter.Application.Calls
import CrashReporter.Application.Host
import CrashReporter.Application.Panics
import CrashReporter.Application.Reports
import CrashReporter.Application.Sessions
import CrashReporter.Backtrace
import CrashReporter.Breadcrumb
import CrashReporter.BreadcrumbRing
import CrashReporter.Callback
import CrashReporter.CallbackRule
import CrashReporter.Client
import CrashReporter.Clock
import CrashReporter.Config
import CrashReporter.Context
import CrashReporter.Decimal.Digits
import CrashReporter.Decimal.Shortest
import CrashReporter.Delivery
import CrashReporter.Description
import CrashReporter.Dict
import CrashReporter.Error
import CrashReporter.Event
import CrashReporter.Foreground
import CrashReporter.Http
import CrashReporter.Json.Field
import CrashReporter.Json.Numeral
import CrashReporter.Json.Printer
import CrashReporter.Json.Reader
import CrashReporter.Json.Tree
import CrashReporter.Json.Value
import CrashReporter.Launch
import CrashReporter.Metadata
import CrashReporter.Normal
import CrashReporter.Observer
import CrashReporter.Panic
import CrashReporter.Payload
import CrashReporter.Pipeline
import CrashReporter.Session
import CrashReporter.SessionId
import CrashReporter.SessionTracker
import CrashReporter.Severity
import CrashReporter.StateEvent
import CrashReporter.Store.Folder
import CrashReporter.Store.RecordStore
import CrashReporter.Symbol
import CrashReporter.Symbol.Compact
import CrashReporter.Symbol.Legacy
import CrashReporter.Symbol.Punycode
import CrashReporter.TaskQueue
import CrashReporter.Text.Blank
import CrashReporter.Text.Bytes
import CrashReporter.Text.Cut
import CrashReporter.Text.Duration
import CrashReporter.Text.Hex
import CrashReporter.Text.Printable
import CrashReporter.Text.Quoted
import CrashReporter.Time.Calendar
import CrashReporter.Time.Instant
import CrashReporter.Time.Timestamp
import CrashReporter.Proofs.Callback
import CrashReporter.Proofs.Decimal.Digits
import CrashReporter.Proofs.Store.Name
import CrashReporter.Proofs.Store.Folder
import CrashReporter.Proofs.Store.Operations
import CrashReporter.Proofs.Store.Orderly
import CrashReporter.Proofs.Store.Order
import CrashReporter.Proofs.Store.Calls
import CrashReporter.Proofs.Store.Claims
import CrashReporter.Proofs.Store.Durability
import CrashReporter.Proofs.Pipeline.Traffic
import CrashReporter.Proofs.Json.Numeral
import CrashReporter.Proofs.Pipeline.SingleFlight
import CrashReporter.Proofs.Text.Hex
import CrashReporter.Proofs.Json.Text
import CrashReporter.Proofs.Json.Nesting
import CrashReporter.Proofs.Json.Reader
import CrashReporter.Proofs.Context
import CrashReporter.Proofs.Session
import CrashReporter.Proofs.Event
import CrashReporter.Proofs.Store.Decoding
import CrashReporter.Proofs.Store.Contents
import CrashReporter.Proofs.Pipeline.Accounts
import CrashReporter.Proofs.Pipeline.SessionTraffic
import CrashReporter.Proofs.Pipeline.Reservations
import CrashReporter.Proofs.Time.Calendar
import CrashReporter.Proofs.Pipeline.SessionAccounts
import CrashReporter.Proofs.Application.Life
import CrashReporter.Proofs.Application.SessionPayloads
import CrashReporter.Proofs.Application.SessionCounts
import CrashReporter.Proofs.SessionTracker.Calls
import CrashReporter.Proofs.SessionTracker.Release
import CrashReporter.Proofs.SessionTracker.View
import CrashReporter.Proofs.Application.Journal
import CrashReporter.Proofs.Application.DroppedReports
import CrashReporter.Proofs.Store.Interruption
import CrashReporter.Proofs.TaskQueue
import CrashReporter.Proofs.TaskQueue.Work
import CrashReporter.Proofs.SessionTracker.Foreground
import CrashReporter.Proofs.Application.Course
import CrashReporter.Proofs.Application.EventFlush
import CrashReporter.Proofs.Application.BreadcrumbTypes
import CrashReporter.Proofs.Application.PanicReports
import CrashReporter.Proofs.Application.BackgroundRest
import CrashReporter.Proofs.Dict
import CrashReporter.Proofs.Json.Reading
import CrashReporter.Proofs.Json.OpenRecord
import CrashReporter.Proofs.Payload
import CrashReporter.Proofs.Normal
import CrashReporter.Proofs.Callback.Walk
import CrashReporter.Proofs.Observer
import CrashReporter.Proofs.Observer.FanOut
import CrashReporter.Proofs.Store.Retention
import CrashReporter.Proofs.Store.Readable
import CrashReporter.Proofs.Pipeline.SessionFlush
import CrashReporter.Proofs.SessionTracker.Presence
import CrashReporter.Proofs.Application.Emptying
import CrashReporter.Proofs.Metadata
import CrashReporter.Proofs.Backtrace
import CrashReporter.Proofs.Application.RecentHistory
import CrashReporter.Proofs.Text.Cut
