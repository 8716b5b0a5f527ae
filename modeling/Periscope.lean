import Periscope.Cgroup.Cpu
import Periscope.Cgroup.KeyedFile
import Periscope.Cgroup.Layout
import Periscope.Cgroup.Memory
import Periscope.Cgroup.SampleCache
import Periscope.Cgroup.Sampler
import Periscope.Channel.Frame
import Periscope.Channel.Receiver
import Periscope.Channel.Reply
import Periscope.Channel.Stream
import Periscope.CommandLine.Arguments
import Periscope.CommandLine.Heading
import Periscope.CommandLine.Program
import Periscope.CommandLine.Scan
import Periscope.CommandLine.Table
import Periscope.Config
import Periscope.Crawler
import Periscope.Decimal.Binary
import Periscope.Decimal.Fixed
import Periscope.Decimal.Shortest
import Periscope.Duration
import Periscope.Error
import Periscope.Feature
import Periscope.Host.CpuTimes
import Periscope.Host.FreeMemory
import Periscope.IoError
import Periscope.Isolation.Executor
import Periscope.Isolation.Preloader
import Periscope.Isolation.Worker
import Periscope.Json.Container
import Periscope.Json.Decoder
import Periscope.Json.Input
import Periscope.Json.Number
import Periscope.Json.Printer
import Periscope.Json.Quoted
import Periscope.Json.Reader
import Periscope.Json.Value
import Periscope.Machine
import Periscope.Machine.FileTree
import Periscope.Machine.NamespaceScript
import Periscope.Main
import Periscope.Misconfiguration
import Periscope.Namespace.Context
import Periscope.Namespace.Handle
import Periscope.Namespace.Kind
import Periscope.Notice
import Periscope.Pairs
import Periscope.Panic
import Periscope.Probe.OsRelease
import Periscope.Probe.ProcessTable
import Periscope.Report
import Periscope.Session
import Periscope.Target
import Periscope.Text.Blank
import Periscope.Text.Numeral
import Periscope.Text.Offset
import Periscope.Text.Path
import Periscope.Text.Plain
import Periscope.Proofs.Steps
import Periscope.Proofs.Ledger
import Periscope.Proofs.Namespace.Requests
import Periscope.Proofs.Namespace.Course
import Periscope.Proofs.Namespace.Custody
import Periscope.Proofs.Namespace.Scopes
import Periscope.Proofs.Namespace.Suppression
import Periscope.Proofs.Namespace.Thread
import Periscope.Proofs.Isolation.Hooks
import Periscope.Proofs.Isolation.Course
import Periscope.Proofs.Isolation.Recovery
import Periscope.Proofs.Isolation.Inheritance
import Periscope.Proofs.Isolation.Shelter
import Periscope.Proofs.Json.Printing
import Periscope.Proofs.Json.Spelling
import Periscope.Proofs.Json.Quoted
import Periscope.Proofs.Json.Decoding
import Periscope.Proofs.Json.Grammar
import Periscope.Proofs.Json.Reading
import Periscope.Proofs.Json.Integer
import Periscope.Proofs.Json.Skipping
import Periscope.Proofs.Config.Settings
import Periscope.Proofs.Config.Loading
import Periscope.Proofs.Probe.Records
import Periscope.Proofs.Channel.Reply
import Periscope.Proofs.Channel.Framing
import Periscope.Proofs.Channel.Delivery
import Periscope.Proofs.Isolation.Transparency
import Periscope.Proofs.Sampling.Course
import Periscope.Proofs.Sampling.Continuity
import Periscope.Proofs.Crawl.Attempts
import Periscope.Proofs.Sampling.Listening
import Periscope.Proofs.Crawl.Independence
import Periscope.Proofs.Sampling.Overflow
import Periscope.Proofs.Isolation.Deadline
import Periscope.Proofs.Isolation.Visibility
import Periscope.Proofs.Mirroring
import Periscope.Proofs.Namespace.Mirroring
import Periscope.Proofs.Namespace.Listening
import Periscope.Proofs.Namespace.Joining
import Periscope.Proofs.Sampling.Mirroring
import Periscope.Proofs.Sampling.Sleeping
import Periscope.Proofs.Sampling.Timing
import Periscope.Proofs.Isolation.Mirroring
import Periscope.Proofs.Isolation.Listening
import Periscope.Proofs.Crawl.Stillness
import Periscope.Proofs.Crawl.Repetition
import Periscope.Proofs.Figure
import Periscope.Proofs.Host.Ticks
import Periscope.Proofs.Host.Window
import Periscope.Proofs.Sampling.Percentages
import Periscope.Proofs.Host.Percentages
import Periscope.Proofs.Host.Matching
import Periscope.Proofs.Memory.Figures
import Periscope.Proofs.Text.KeyedFile
import Periscope.Proofs.Text.Numeral
import Periscope.Proofs.Memory.Readings
import Periscope.Proofs.Memory.Verdict
import Periscope.Proofs.Host.FreeMemory
import Periscope.Proofs.Memory.Overflow
import Periscope.Proofs.Json.Envelope
import Periscope.Proofs.Json.Spelled
import Periscope.Proofs.Channel.Verdicts
import Periscope.Proofs.Channel.Handover
import Periscope.Proofs.Text.Blank
import Periscope.Proofs.Probe.Release
import Periscope.Proofs.Text.Offset
import Periscope.Proofs.Text.Path
import Periscope.Proofs.Probe.Listing
import Periscope.Proofs.Cgroup.Confinement
import Periscope.Proofs.Cgroup.UsageFile
import Periscope.Proofs.Target
import Periscope.Proofs.Json.Layout
import Periscope.Proofs.Json.Kept
import Periscope.Proofs.Report
import Periscope.Proofs.Isolation.Preloading
import Periscope.Proofs.Isolation.Sharing
import Periscope.Proofs.CommandLine.Overriding
