import SqlBench.Address
import SqlBench.Audience
import SqlBench.Benchmark
import SqlBench.Catalog
import SqlBench.Clock
import SqlBench.Collector
import SqlBench.CommandLine.Arguments
import SqlBench.CommandLine.Listing
import SqlBench.CommandLine.Session
import SqlBench.CommandLine.Table
import SqlBench.CommandLine.Variable
import SqlBench.Course
import SqlBench.DataSources
import SqlBench.Decimal.Binary
import SqlBench.Decimal.Reading
import SqlBench.Decimal.Shortest
import SqlBench.Decimal.Written
import SqlBench.Descriptor
import SqlBench.Dict
import SqlBench.Event
import SqlBench.Execution
import SqlBench.Expansion
import SqlBench.Failure
import SqlBench.FileTree
import SqlBench.Hook.Basic
import SqlBench.Hook.Step
import SqlBench.Instant
import SqlBench.Json.Basic
import SqlBench.Json.Printer
import SqlBench.Json.Reader
import SqlBench.LogLevel
import SqlBench.Main
import SqlBench.Measurement.Basic
import SqlBench.Measurement.EngineStats
import SqlBench.Measurement.Quantity
import SqlBench.Path
import SqlBench.Plan
import SqlBench.Pool.Basic
import SqlBench.Pool.Worker
import SqlBench.QueryFile
import SqlBench.Rehearsal
import SqlBench.Report
import SqlBench.Result
import SqlBench.Retry
import SqlBench.Services
import SqlBench.Settings
import SqlBench.Shell.Expression
import SqlBench.Shell.Program
import SqlBench.Shell.Reader
import SqlBench.Shell.Run
import SqlBench.Shell.State
import SqlBench.Shell.Syntax
import SqlBench.Shell.Token
import SqlBench.Sql.Database
import SqlBench.Sql.Statement
import SqlBench.Sql.Token
import SqlBench.Station
import SqlBench.Statistics
import SqlBench.Suite
import SqlBench.Template.Filter
import SqlBench.Template.Function
import SqlBench.Template.Meaning
import SqlBench.Template.Reader
import SqlBench.Template.Render
import SqlBench.Template.Scope
import SqlBench.Template.Syntax
import SqlBench.Template.Test
import SqlBench.Template.Value
import SqlBench.Text.Blank
import SqlBench.Text.Cluster
import SqlBench.Text.Cut
import SqlBench.Text.Hidden
import SqlBench.Text.LetterCase
import SqlBench.Text.Octets
import SqlBench.Text.Quoted
import SqlBench.Text.Word
import SqlBench.Variables
import SqlBench.Verdict
import SqlBench.Web.Client
import SqlBench.Web.Engine
import SqlBench.Web.Host
import SqlBench.Web.Reporter
import SqlBench.Web.Status
import SqlBench.Web.Url
import SqlBench.Width
import SqlBench.Yaml.Cursor
import SqlBench.Yaml.Decode
import SqlBench.Yaml.Node
import SqlBench.Yaml.Scalar
import SqlBench.Yaml.ScalarText
import SqlBench.Yaml.Token
import SqlBench.Proofs.Course
import SqlBench.Proofs.Pool.Worker
import SqlBench.Proofs.Hook
import SqlBench.Proofs.Pool.Step
import SqlBench.Proofs.Pool.Lasting
import SqlBench.Proofs.Pool.Progress
import SqlBench.Proofs.Pool.Order
import SqlBench.Proofs.Pool.Census
import SqlBench.Proofs.Pool.Fate
import SqlBench.Proofs.Pool.Script
import SqlBench.Proofs.Pool.Greedy
import SqlBench.Proofs.Pool.Stop
import SqlBench.Proofs.Pool.Truncation
import SqlBench.Proofs.Pool.Proceeding
import SqlBench.Proofs.Pool.Stages
import SqlBench.Proofs.Pool.Life
import SqlBench.Proofs.Pool.Serial
import SqlBench.Proofs.Variables
import SqlBench.Proofs.Plan
import SqlBench.Proofs.Suite.Stage
import SqlBench.Proofs.Suite.Ending
import SqlBench.Proofs.Suite.Status
import SqlBench.Proofs.Suite.Abort
import SqlBench.Proofs.Suite.Lasting
import SqlBench.Proofs.Suite.Missing
import SqlBench.Proofs.Pool.Overlap
import SqlBench.Proofs.Pool.News
import SqlBench.Proofs.Suite.News
import SqlBench.Proofs.Suite.Journal
import SqlBench.Proofs.Suite.CleanUp
import SqlBench.Proofs.Suite.Unwinding
import SqlBench.Proofs.Suite.Order
import SqlBench.Proofs.Pool.Timetable
import SqlBench.Proofs.Pool.Concurrency
import SqlBench.Proofs.Suite.Beginning
import SqlBench.Proofs.Session
import SqlBench.Proofs.Echo
import SqlBench.Proofs.Pool.Echo
import SqlBench.Proofs.Suite.Echo
import SqlBench.Proofs.Suite.Independence
import SqlBench.Proofs.Suite.WarmUp
import SqlBench.Proofs.Audience.Served
import SqlBench.Proofs.Odometer
import SqlBench.Proofs.Plan.Size
import SqlBench.Proofs.Plan.Coverage
import SqlBench.Proofs.Admission
import SqlBench.Proofs.Statistics
import SqlBench.Proofs.Suite.Aggregates
import SqlBench.Proofs.Suite.Throughput
import SqlBench.Proofs.Hook.Conduct
import SqlBench.Proofs.Retry
import SqlBench.Proofs.Recording
import SqlBench.Proofs.Plan.Attributes
import SqlBench.Proofs.Statements
import SqlBench.Proofs.Quantity
import SqlBench.Proofs.VariableValue
import SqlBench.Proofs.Address
import SqlBench.Proofs.Collector
import SqlBench.Proofs.Suite.Spared
import SqlBench.Proofs.QueryFile
import SqlBench.Proofs.Catalog.Loading
import SqlBench.Proofs.Statistics.Exact
import SqlBench.Proofs.Overflow
