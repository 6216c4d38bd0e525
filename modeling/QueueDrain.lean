import QueueDrain.Bench.Basic
import QueueDrain.Bench.Script
import QueueDrain.Bench.Session
import QueueDrain.Binary64.Basic
import QueueDrain.Binary64.Decimal
import QueueDrain.Binary64.Reader
import QueueDrain.Client
import QueueDrain.CommandLine.Help
import QueueDrain.CommandLine.Parse
import QueueDrain.CommandLine.Setting
import QueueDrain.Csv.Basic
import QueueDrain.Csv.Cell
import QueueDrain.Csv.Detail
import QueueDrain.Csv.Summary
import QueueDrain.Duration
import QueueDrain.Error
import QueueDrain.Heap.Measurement
import QueueDrain.Heap.Sampler
import QueueDrain.Heap.Summary
import QueueDrain.Host.Basic
import QueueDrain.Host.Machine
import QueueDrain.Host.World
import QueueDrain.Http.Basic
import QueueDrain.Http.Connection
import QueueDrain.Http.Virtual
import QueueDrain.Http.Wire
import QueueDrain.Json.Basic
import QueueDrain.Json.Number
import QueueDrain.Json.Parser
import QueueDrain.Json.Printer
import QueueDrain.Json.Sketch
import QueueDrain.Json.Token
import QueueDrain.Lab.Basic
import QueueDrain.Lab.CommandLine
import QueueDrain.Lab.Network
import QueueDrain.Lab.Server
import QueueDrain.Lab.Service
import QueueDrain.Main
import QueueDrain.Mode
import QueueDrain.Output.Paths
import QueueDrain.Output.Volume
import QueueDrain.Plan.Basic
import QueueDrain.Plan.Resolve
import QueueDrain.Plan.Sizes
import QueueDrain.Proofs.Bench.Coupling
import QueueDrain.Proofs.Bench.Log
import QueueDrain.Proofs.Heap.Loop
import QueueDrain.Report
import QueueDrain.Rollup
import QueueDrain.Text.Blank
import QueueDrain.Text.Integer
import QueueDrain.Text.Utf8
import QueueDrain.Url.Address
import QueueDrain.Url.Domain.Basic
import QueueDrain.Url.Domain.Direction
import QueueDrain.Url.Domain.Joiner
import QueueDrain.Url.Domain.Punycode
import QueueDrain.Url.Domain.Table
import QueueDrain.Url.Host
import QueueDrain.Url.Percent
import QueueDrain.Url.Readers
import QueueDrain.Url.Request
import QueueDrain.Url.Socket
import QueueDrain.Url.Standard
import QueueDrain.Proofs.Bench.View
import QueueDrain.Proofs.Bench.Poll
import QueueDrain.Proofs.Bench.Orderly
import QueueDrain.Proofs.Bench.Containment
import QueueDrain.Proofs.Bench.Sampling
import QueueDrain.Proofs.Bench.Matrix
import QueueDrain.Proofs.Plan.Iterations
import QueueDrain.Proofs.Bench.Steps
import QueueDrain.Proofs.Text.Integer
import QueueDrain.Proofs.Plan.Sources
import QueueDrain.Proofs.Text.Blank
import QueueDrain.Proofs.Plan.Acceptance
import QueueDrain.Proofs.Text.Utf8
import QueueDrain.Proofs.Csv.Reader
import QueueDrain.Proofs.Csv.Tables
import QueueDrain.Proofs.Output.Volume
import QueueDrain.Proofs.Output.Names
import QueueDrain.Proofs.Output.Fresh
import QueueDrain.Proofs.Bench.Erasure
import QueueDrain.Proofs.Bench.Course
import QueueDrain.Proofs.Http.Exchanges
import QueueDrain.Proofs.Host.Watched
import QueueDrain.Proofs.Host.Run
import QueueDrain.Proofs.Json.Fields
import QueueDrain.Proofs.Json.Scan
import QueueDrain.Proofs.Json.Documents
import QueueDrain.Proofs.Binary64.Rounding
import QueueDrain.Proofs.Binary64.Shortest
import QueueDrain.Proofs.Json.Doubles
import QueueDrain.Proofs.Lab.Drain
import QueueDrain.Proofs.Lab.Answers
import QueueDrain.Proofs.Lab.Reports
import QueueDrain.Proofs.Heap.Prompt
import QueueDrain.Proofs.Lab.Session
import QueueDrain.Proofs.Lab.Waits
import QueueDrain.Proofs.Lab.Benchmark
import QueueDrain.Proofs.Url.Targets
import QueueDrain.Proofs.Url.Standard
import QueueDrain.Proofs.Http.Addresses
import QueueDrain.Proofs.Rollup.Groups
import QueueDrain.Proofs.Rollup.Matrix
import QueueDrain.Proofs.Lab.History
import QueueDrain.Proofs.Heap.Ticks
import QueueDrain.Proofs.Heap.Moments
import QueueDrain.Proofs.Heap.Lifecycle
import QueueDrain.Proofs.Heap.Ranks
import QueueDrain.Proofs.Rollup.Grouping
import QueueDrain.Proofs.Heap.Requests
import QueueDrain.Proofs.Heap.Timeline
import QueueDrain.Proofs.Text.Bytes
import QueueDrain.Proofs.Json.Lexemes
import QueueDrain.Proofs.Json.Grammar
import QueueDrain.Proofs.Json.Sketch
import QueueDrain.Proofs.Json.Admission
import QueueDrain.Proofs.Heap.Gauges
import QueueDrain.Proofs.Http.Classification
import QueueDrain.Proofs.Text.Parts
import QueueDrain.Proofs.Csv.Cells
import QueueDrain.Proofs.Plan.SizeList
import QueueDrain.Proofs.Lab.Consistency
import QueueDrain.Proofs.Lab.Isolation
import QueueDrain.Proofs.Plan.Ranges
import QueueDrain.Proofs.Plan.Places
import QueueDrain.Proofs.Plan.BaseUrl
import QueueDrain.Proofs.CommandLine.Arguments
import QueueDrain.Proofs.CommandLine.Values
import QueueDrain.Proofs.CommandLine.Splits
import QueueDrain.Proofs.Lab.Batches
import QueueDrain.Proofs.Binary64.Whole
import QueueDrain.Proofs.Report.Counts
import QueueDrain.Proofs.Binary64.Nearest
import QueueDrain.Proofs.Heap.Percentiles
import QueueDrain.Proofs.Text.Order
import QueueDrain.Proofs.Json.Settled
import QueueDrain.Proofs.Report.Transit
