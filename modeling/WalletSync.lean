import WalletSync.Account.Basic
import WalletSync.Account.Json
import WalletSync.Account.Stored
import WalletSync.Amount
import WalletSync.Bridge
import WalletSync.Chain.Api
import WalletSync.Chain.Entry
import WalletSync.Chain.Memory
import WalletSync.Config.Basic
import WalletSync.Config.Bridges
import WalletSync.Config.Load
import WalletSync.Config.Validation
import WalletSync.Decimal.Binary
import WalletSync.Decimal.Shortest
import WalletSync.Digest.Keccak256
import WalletSync.Digest.Sha256
import WalletSync.Elrond.Api
import WalletSync.Elrond.Reply
import WalletSync.Ethereum.Api
import WalletSync.Ethereum.Explorer
import WalletSync.Ethereum.Rpc
import WalletSync.Family
import WalletSync.Family.Address
import WalletSync.Family.Gas
import WalletSync.Flow
import WalletSync.History
import WalletSync.Json.Basic
import WalletSync.Json.Number
import WalletSync.Json.Reader
import WalletSync.Json.Record
import WalletSync.Json.Writer
import WalletSync.Moment.Basic
import WalletSync.Moment.Calendar
import WalletSync.Moment.Text
import WalletSync.Network.Client
import WalletSync.Network.Error
import WalletSync.Network.Retry
import WalletSync.Network.ServerMessage
import WalletSync.Operation
import WalletSync.Payment.Broadcast
import WalletSync.Payment.Build
import WalletSync.Payment.Error
import WalletSync.Payment.Prepare
import WalletSync.Pending
import WalletSync.Proofs.Account.Restore
import WalletSync.Proofs.Account.RoundTrip
import WalletSync.Proofs.Amount.Numeral
import WalletSync.Proofs.Amount.Text
import WalletSync.Proofs.Chain.Memory
import WalletSync.Proofs.Config.Startup
import WalletSync.Proofs.Decimal.Binary
import WalletSync.Proofs.Decimal.Rounding
import WalletSync.Proofs.Decimal.Shortest
import WalletSync.Proofs.Ethereum.Answer
import WalletSync.Proofs.Ethereum.Failover
import WalletSync.Proofs.Ethereum.History
import WalletSync.Proofs.Family.Address
import WalletSync.Proofs.Flow.Course
import WalletSync.Proofs.Flow.Faithful
import WalletSync.Proofs.Flow.InPlace
import WalletSync.Proofs.Flow.Sends
import WalletSync.Proofs.Flow.Settlement
import WalletSync.Proofs.Flow.Steps
import WalletSync.Proofs.Flow.Unsettled
import WalletSync.Proofs.History.Batches
import WalletSync.Proofs.History.Cursor
import WalletSync.Proofs.History.Ids
import WalletSync.Proofs.History.Increment
import WalletSync.Proofs.History.LastForms
import WalletSync.Proofs.History.Merge
import WalletSync.Proofs.History.Order
import WalletSync.Proofs.Json.Number
import WalletSync.Proofs.Json.Record
import WalletSync.Proofs.Json.RoundTrip
import WalletSync.Proofs.Json.Values
import WalletSync.Proofs.Moment.Calendar
import WalletSync.Proofs.Moment.Order
import WalletSync.Proofs.Moment.Text
import WalletSync.Proofs.Network.Attempts
import WalletSync.Proofs.Network.Backoff
import WalletSync.Proofs.Network.EmptyMessage
import WalletSync.Proofs.Network.Message
import WalletSync.Proofs.Network.Wrapping
import WalletSync.Proofs.Operation.Id
import WalletSync.Proofs.Payment.Broadcast
import WalletSync.Proofs.Payment.Execution
import WalletSync.Proofs.Payment.Fees
import WalletSync.Proofs.Payment.Preparation
import WalletSync.Proofs.Payment.Spendable
import WalletSync.Proofs.Pending.Passes
import WalletSync.Proofs.Pending.SafeNumber
import WalletSync.Proofs.Pending.Sequence
import WalletSync.Proofs.Pending.Superseded
import WalletSync.Proofs.Rounds
import WalletSync.Proofs.Sync.Carry
import WalletSync.Proofs.Sync.Consistent
import WalletSync.Proofs.Sync.Discovery
import WalletSync.Proofs.Sync.Idempotent
import WalletSync.Proofs.Sync.Incremental
import WalletSync.Proofs.Sync.Journal
import WalletSync.Proofs.Sync.NextSequence
import WalletSync.Proofs.Sync.Outcome
import WalletSync.Proofs.Sync.Snapshots
import WalletSync.Proofs.Text.Blank
import WalletSync.Proofs.Text.Bytes
import WalletSync.Proofs.Text.Digits
import WalletSync.Proofs.Text.Hex
import WalletSync.Proofs.Transaction.Digest
import WalletSync.Proofs.Transaction.RoundTrip
import WalletSync.Registry
import WalletSync.Sync.Discovery
import WalletSync.Sync.Error
import WalletSync.Sync.Handle
import WalletSync.Sync.Refresh
import WalletSync.Text.Blank
import WalletSync.Text.Canonical
import WalletSync.Text.Canonical.Decomposition
import WalletSync.Text.Canonical.Order
import WalletSync.Text.Digits
import WalletSync.Text.Hex
import WalletSync.Text.Table
import WalletSync.Toml.Reader
import WalletSync.Toml.Scalar
import WalletSync.Toml.Table
import WalletSync.Transaction.Basic
import WalletSync.Transaction.Json
import WalletSync.Transaction.Signed
import WalletSync.Url.Basic
import WalletSync.Url.Domain
import WalletSync.Url.Domain.Bearing
import WalletSync.Url.Domain.Encoded
import WalletSync.Url.Domain.Joiner
import WalletSync.Url.Domain.Mark
import WalletSync.Url.Domain.Plain
import WalletSync.Url.Domain.Refused
import WalletSync.Url.Number
import WalletSync.Word
