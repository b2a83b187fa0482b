import ConnectorHub.Action
import ConnectorHub.Attribute
import ConnectorHub.AttributeSet
import ConnectorHub.Capability
import ConnectorHub.Configuration.Basic
import ConnectorHub.Configuration.Pool
import ConnectorHub.Configuration.Server
import ConnectorHub.Connector.Basic
import ConnectorHub.Connector.Instance
import ConnectorHub.Connector.Journal
import ConnectorHub.Error.Basic
import ConnectorHub.Error.Document
import ConnectorHub.Filter.Accept
import ConnectorHub.Filter.Basic
import ConnectorHub.Filter.Native
import ConnectorHub.Hub.Facade
import ConnectorHub.Hub.Registry
import ConnectorHub.Hub.World
import ConnectorHub.Identifiers
import ConnectorHub.Json.Basic
import ConnectorHub.Json.Document
import ConnectorHub.Json.Printer
import ConnectorHub.Json.Reader
import ConnectorHub.Keyed
import ConnectorHub.Normalizer
import ConnectorHub.Number.Binary64
import ConnectorHub.Number.Shortest
import ConnectorHub.ObjectClass
import ConnectorHub.Operation
import ConnectorHub.Options.Basic
import ConnectorHub.Options.Document
import ConnectorHub.Pool.Basic
import ConnectorHub.Pool.Semaphore
import ConnectorHub.Pool.Waiting
import ConnectorHub.Proofs.Action.Agree
import ConnectorHub.Proofs.Action.Keeps
import ConnectorHub.Proofs.Action.Triple
import ConnectorHub.Proofs.Attributes.Building
import ConnectorHub.Proofs.Attributes.Distinct
import ConnectorHub.Proofs.Attributes.Lookup
import ConnectorHub.Proofs.Attributes.Lowercase
import ConnectorHub.Proofs.Attributes.Normal
import ConnectorHub.Proofs.Attributes.Object
import ConnectorHub.Proofs.Attributes.Projection
import ConnectorHub.Proofs.Attributes.Uids
import ConnectorHub.Proofs.Configuration.Sharing
import ConnectorHub.Proofs.Connector.Impersonal
import ConnectorHub.Proofs.Connector.Scripted
import ConnectorHub.Proofs.Connector.Writes
import ConnectorHub.Proofs.Filter.Coverage
import ConnectorHub.Proofs.Filter.Exactness
import ConnectorHub.Proofs.Filter.NormalForm
import ConnectorHub.Proofs.Filter.PushNot
import ConnectorHub.Proofs.Filter.Tested
import ConnectorHub.Proofs.Hub.Exchange
import ConnectorHub.Proofs.Hub.Frame
import ConnectorHub.Proofs.Hub.History
import ConnectorHub.Proofs.Hub.Lasting
import ConnectorHub.Proofs.Hub.Ledger
import ConnectorHub.Proofs.Hub.Making
import ConnectorHub.Proofs.Hub.Refusal
import ConnectorHub.Proofs.Hub.Release
import ConnectorHub.Proofs.Hub.Request
import ConnectorHub.Proofs.Hub.Sharing
import ConnectorHub.Proofs.Hub.Shutdown
import ConnectorHub.Proofs.Hub.Supply
import ConnectorHub.Proofs.Hub.Trade
import ConnectorHub.Proofs.Hub.Transfer
import ConnectorHub.Proofs.Hub.Transparent
import ConnectorHub.Proofs.Hub.Writes
import ConnectorHub.Proofs.Json.Compact
import ConnectorHub.Proofs.Likeness.Instance
import ConnectorHub.Proofs.Likeness.Pool
import ConnectorHub.Proofs.Likeness.Scripted
import ConnectorHub.Proofs.Likeness.Work
import ConnectorHub.Proofs.Likeness.World
import ConnectorHub.Proofs.Pool.Account
import ConnectorHub.Proofs.Pool.Closed
import ConnectorHub.Proofs.Pool.Course
import ConnectorHub.Proofs.Pool.Custody
import ConnectorHub.Proofs.Pool.Eviction
import ConnectorHub.Proofs.Pool.Lasting
import ConnectorHub.Proofs.Pool.Lending
import ConnectorHub.Proofs.Pool.Queue
import ConnectorHub.Proofs.Pool.Ready
import ConnectorHub.Proofs.Pool.Turnover
import ConnectorHub.Proofs.Pool.Usage
import ConnectorHub.Proofs.Search.Exact
import ConnectorHub.Proofs.Search.Fetch
import ConnectorHub.Proofs.Search.Follow
import ConnectorHub.Proofs.Search.Halt
import ConnectorHub.Proofs.Search.Pipeline
import ConnectorHub.Proofs.Search.Plan
import ConnectorHub.Proofs.Search.Record
import ConnectorHub.Proofs.Search.Serves
import ConnectorHub.Proofs.Search.Split
import ConnectorHub.Proofs.Search.Stream
import ConnectorHub.Proofs.Search.Trimmed
import ConnectorHub.Proofs.Stream.Chain
import ConnectorHub.Proofs.Stream.Distinct
import ConnectorHub.Proofs.Stream.Feed
import ConnectorHub.Proofs.Stream.Record
import ConnectorHub.Proofs.Stream.Signals
import ConnectorHub.Proofs.Stream.Talk
import ConnectorHub.Proofs.Sync.Classes
import ConnectorHub.Proofs.Sync.Deliver
import ConnectorHub.Proofs.Sync.Draft
import ConnectorHub.Proofs.Sync.Relay
import ConnectorHub.Proofs.Update.Emulation
import ConnectorHub.Proofs.Update.Merge
import ConnectorHub.Proofs.Update.Once
import ConnectorHub.Proofs.Update.Permitted
import ConnectorHub.ReservedNames
import ConnectorHub.ResourceObject
import ConnectorHub.ResultChain
import ConnectorHub.Scenario.Basic
import ConnectorHub.Scenario.Step
import ConnectorHub.Schema
import ConnectorHub.Scripted.Connector
import ConnectorHub.Scripted.Dialect
import ConnectorHub.Scripted.Rule
import ConnectorHub.Search
import ConnectorHub.SyncDelta
import ConnectorHub.Text.Blank
import ConnectorHub.Text.GraphemeExtend
import ConnectorHub.Text.Hex
import ConnectorHub.Text.Lowercase
import ConnectorHub.Text.Match
import ConnectorHub.Text.Name
import ConnectorHub.Text.Quoted
import ConnectorHub.Text.Ungraphic
import ConnectorHub.Update
import ConnectorHub.Value
import ConnectorHub.Proofs.Attributes.Equality
import ConnectorHub.Proofs.Update.Algebra
import ConnectorHub.Proofs.Filter.CaseFolding
import ConnectorHub.Proofs.Connector.Leaves
import ConnectorHub.Proofs.Hub.Support
import ConnectorHub.Proofs.Hub.Uids
import ConnectorHub.Proofs.Hub.Creation
import ConnectorHub.Proofs.Update.Respelling
import ConnectorHub.Proofs.Documents.Configuration
import ConnectorHub.Proofs.Filter.Ordering
