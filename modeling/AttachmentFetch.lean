import AttachmentFetch.Attachment.Id
import AttachmentFetch.Attachment.Json
import AttachmentFetch.Attachment.Pointer
import AttachmentFetch.Attachment.State
import AttachmentFetch.Backend
import AttachmentFetch.Client
import AttachmentFetch.CommandLine.Basic
import AttachmentFetch.CommandLine.Help
import AttachmentFetch.CommandLine.Parser
import AttachmentFetch.Config
import AttachmentFetch.Crypto.Aes
import AttachmentFetch.Crypto.Gcm
import AttachmentFetch.Crypto.Sha256
import AttachmentFetch.Disk.Basic
import AttachmentFetch.Disk.Directory
import AttachmentFetch.Disk.Path
import AttachmentFetch.Download.Options
import AttachmentFetch.Download.Transfer
import AttachmentFetch.Duration
import AttachmentFetch.Envelope
import AttachmentFetch.ErrorChain
import AttachmentFetch.Failure
import AttachmentFetch.Http.Client
import AttachmentFetch.Http.Network
import AttachmentFetch.Http.Status
import AttachmentFetch.IoError
import AttachmentFetch.Job.Basic
import AttachmentFetch.Job.Download
import AttachmentFetch.Job.Outcome
import AttachmentFetch.Job.Record
import AttachmentFetch.Job.RetryBudget
import AttachmentFetch.Job.Worker
import AttachmentFetch.Json.Fault
import AttachmentFetch.Json.Printer
import AttachmentFetch.Json.Reader
import AttachmentFetch.Json.Record
import AttachmentFetch.Json.Scan
import AttachmentFetch.Json.Skip
import AttachmentFetch.Json.Value
import AttachmentFetch.Machine
import AttachmentFetch.Main
import AttachmentFetch.Number.Binary64
import AttachmentFetch.Number.Shortest
import AttachmentFetch.Number.Signed
import AttachmentFetch.Program
import AttachmentFetch.Proofs.Attachment.Key
import AttachmentFetch.Proofs.Backend
import AttachmentFetch.Proofs.Client.Delivery
import AttachmentFetch.Proofs.Client.Enrolment
import AttachmentFetch.Proofs.Client.Isolation
import AttachmentFetch.Proofs.Client.Soundness
import AttachmentFetch.Proofs.CommandLine.Rendering
import AttachmentFetch.Proofs.Configuration
import AttachmentFetch.Proofs.Custody
import AttachmentFetch.Proofs.Disk.Calls
import AttachmentFetch.Proofs.Disk.Changes
import AttachmentFetch.Proofs.Disk.Directory
import AttachmentFetch.Proofs.Disk.Footprint
import AttachmentFetch.Proofs.Disk.Target
import AttachmentFetch.Proofs.Download.Allowance
import AttachmentFetch.Proofs.Download.Framing
import AttachmentFetch.Proofs.Download.Transfer
import AttachmentFetch.Proofs.Duration
import AttachmentFetch.Proofs.Envelope
import AttachmentFetch.Proofs.Envelope.Verdict
import AttachmentFetch.Proofs.Http.Exchange
import AttachmentFetch.Proofs.Job.Backoff
import AttachmentFetch.Proofs.Job.Chain
import AttachmentFetch.Proofs.Job.Course
import AttachmentFetch.Proofs.Job.Downgrade
import AttachmentFetch.Proofs.Job.Effect
import AttachmentFetch.Proofs.Job.Foreign
import AttachmentFetch.Proofs.Job.Lockstep
import AttachmentFetch.Proofs.Job.Permanent
import AttachmentFetch.Proofs.Job.Persistence
import AttachmentFetch.Proofs.Job.Protocol
import AttachmentFetch.Proofs.Job.Provenance
import AttachmentFetch.Proofs.Job.Published
import AttachmentFetch.Proofs.Job.Queue
import AttachmentFetch.Proofs.Job.Replay
import AttachmentFetch.Proofs.Job.Restoring
import AttachmentFetch.Proofs.Job.Retries
import AttachmentFetch.Proofs.Job.Scratch
import AttachmentFetch.Proofs.Job.Traces
import AttachmentFetch.Proofs.Job.Transparency
import AttachmentFetch.Proofs.Job.Verdict
import AttachmentFetch.Proofs.Json.Numbers
import AttachmentFetch.Proofs.Json.Ordered
import AttachmentFetch.Proofs.Json.Record
import AttachmentFetch.Proofs.Json.RoundTrip
import AttachmentFetch.Proofs.Json.Strings
import AttachmentFetch.Proofs.Machine
import AttachmentFetch.Proofs.Scene
import AttachmentFetch.Proofs.Step
import AttachmentFetch.Proofs.Store.Atomicity
import AttachmentFetch.Proofs.Store.Insertion
import AttachmentFetch.Proofs.Store.Ledger
import AttachmentFetch.Proofs.Store.Part
import AttachmentFetch.Proofs.Store.Registration
import AttachmentFetch.Proofs.Store.Rows
import AttachmentFetch.Proofs.Store.Tables
import AttachmentFetch.Proofs.Text.Canonical
import AttachmentFetch.Proofs.Text.Decimal
import AttachmentFetch.Proofs.Text.Encodings
import AttachmentFetch.Proofs.Text.Hexadecimal
import AttachmentFetch.Proofs.Text.Radix
import AttachmentFetch.Proofs.Text.Utf8
import AttachmentFetch.Proofs.Together
import AttachmentFetch.Proofs.Watch
import AttachmentFetch.Rehearsal.Jobs
import AttachmentFetch.Rehearsal.Services
import AttachmentFetch.Scene
import AttachmentFetch.ScratchFile
import AttachmentFetch.Services
import AttachmentFetch.Settings
import AttachmentFetch.Step
import AttachmentFetch.Store.Database
import AttachmentFetch.Store.Repository
import AttachmentFetch.Store.Row
import AttachmentFetch.Text.Base64
import AttachmentFetch.Text.Hex
import AttachmentFetch.Text.Integer
import AttachmentFetch.Text.Printable
import AttachmentFetch.Text.Quoted
import AttachmentFetch.Text.Utf8
import AttachmentFetch.Toml.Reader
import AttachmentFetch.Toml.Scan
import AttachmentFetch.Toml.Table
import AttachmentFetch.Toml.Value
import AttachmentFetch.Url.Basic
import AttachmentFetch.Url.Host
import AttachmentFetch.Url.HostName
import AttachmentFetch.Url.Punycode
import AttachmentFetch.Url.Reader
