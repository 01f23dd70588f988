import QueryCache.Cache.Entry
import QueryCache.Cache.Host
import QueryCache.Cache.Memory
import QueryCache.Cache.Redis
import QueryCache.Cache.Store
import QueryCache.Cache.Time
import QueryCache.Calendar.Date
import QueryCache.Calendar.DateTime
import QueryCache.Calendar.Iso
import QueryCache.Cleanup
import QueryCache.Codec.Bits
import QueryCache.Codec.Bytes
import QueryCache.Codec.Compression
import QueryCache.Codec.Compression.CodeForm
import QueryCache.Codec.Compression.Command
import QueryCache.Codec.Compression.PrefixCode
import QueryCache.Codec.Compression.Search
import QueryCache.Codec.Compression.Smoothing
import QueryCache.Codec.Compression.Stream
import QueryCache.Codec.Exact
import QueryCache.Codec.Footprint
import QueryCache.Codec.MessagePack
import QueryCache.Codec.Payload
import QueryCache.Coordinator.Basic
import QueryCache.Coordinator.Invalidation
import QueryCache.Coordinator.Read
import QueryCache.Coordinator.Service
import QueryCache.Coordinator.Tasks
import QueryCache.Criteria.Criterion
import QueryCache.Criteria.Pipeline
import QueryCache.Criteria.Request
import QueryCache.Criteria.Scope
import QueryCache.Criteria.Transcoder
import QueryCache.Decimal.Binary64
import QueryCache.Decimal.Notation
import QueryCache.Decimal.Number
import QueryCache.Decimal.Power
import QueryCache.Decimal.Reading
import QueryCache.Decimal.Shortest
import QueryCache.Entity.Report
import QueryCache.Entity.Rows
import QueryCache.Entity.Store
import QueryCache.Failure
import QueryCache.Json.Read
import QueryCache.Json.Write
import QueryCache.Key.Derive
import QueryCache.Key.JsonTree
import QueryCache.Key.Sha256
import QueryCache.Log
import QueryCache.Log.Layout
import QueryCache.Log.Padding
import QueryCache.Log.Style
import QueryCache.Logger
import QueryCache.Operator
import QueryCache.Order.Heap
import QueryCache.Order.Insertion
import QueryCache.Predicate.Basic
import QueryCache.Predicate.Eval
import QueryCache.Predicate.Like
import QueryCache.Predicate.Sql
import QueryCache.Query.State
import QueryCache.Repository.Basic
import QueryCache.Repository.Retrieval
import QueryCache.Repository.Session
import QueryCache.Repository.Write
import QueryCache.Request.Basic
import QueryCache.Request.Params
import QueryCache.Request.ParseError
import QueryCache.Request.Parser
import QueryCache.Request.Summary
import QueryCache.Request.Term
import QueryCache.Settings.Components
import QueryCache.Settings.Reading
import QueryCache.Settings.Schema
import QueryCache.Table
import QueryCache.Tag
import QueryCache.Text.Case
import QueryCache.Text.Digit
import QueryCache.Text.Encoding
import QueryCache.Text.Printable
import QueryCache.Text.Quoted
import QueryCache.Text.Ranges
import QueryCache.Text.Split
import QueryCache.Text.Word
import QueryCache.Value.Basic
import QueryCache.Value.Canonical
import QueryCache.Value.Compare
import QueryCache.Value.Field
import QueryCache.Value.Text
import QueryCache.Proofs.Distinct
import QueryCache.Proofs.Outcome
import QueryCache.Proofs.Request.FieldName
import QueryCache.Proofs.Request.Readable
import QueryCache.Proofs.Request.Token
import QueryCache.Proofs.Request.Written
import QueryCache.Proofs.Cache.Index
import QueryCache.Proofs.Coordinator.Interleaving
import QueryCache.Proofs.Coordinator.Stops
import QueryCache.Proofs.Request.RoundTrip
import QueryCache.Proofs.Coordinator.Change
import QueryCache.Proofs.Coordinator.Flights
import QueryCache.Proofs.Coordinator.Purge
import QueryCache.Proofs.Coordinator.Freshness
import QueryCache.Proofs.Key.Identity
import QueryCache.Proofs.Entity.Store
import QueryCache.Proofs.Entity.Selection
import QueryCache.Proofs.Entity.Report
import QueryCache.Proofs.Criteria.Reads
import QueryCache.Proofs.Predicate.Leaves
import QueryCache.Proofs.Predicate.Rendering
import QueryCache.Proofs.Criteria.Meaning
import QueryCache.Proofs.Criteria.Built
import QueryCache.Proofs.Criteria.ReadSet
import QueryCache.Proofs.Repository.View
import QueryCache.Proofs.Repository.Reading
import QueryCache.Proofs.Repository.Keyed
import QueryCache.Proofs.Repository.Alone
import QueryCache.Proofs.Repository.Effect
import QueryCache.Proofs.Repository.Transparency
import QueryCache.Proofs.Coordinator.Turns
import QueryCache.Proofs.Coordinator.Traffic
import QueryCache.Proofs.Coordinator.SingleFlight
import QueryCache.Proofs.Coordinator.Outcomes
import QueryCache.Proofs.Coordinator.Remote
import QueryCache.Proofs.Coordinator.Overtaking
import QueryCache.Proofs.Coordinator.Once
import QueryCache.Proofs.Coordinator.Returning
import QueryCache.Proofs.Decimal.Rounding
import QueryCache.Proofs.Cache.Clock
import QueryCache.Proofs.Cache.Upkeep
import QueryCache.Proofs.Cache.Listing
import QueryCache.Proofs.Cache.Expiring
import QueryCache.Proofs.Coordinator.Accounting
import QueryCache.Proofs.Coordinator.FailOpen
import QueryCache.Proofs.Decimal.Shortest
import QueryCache.Proofs.Decimal.Notation
import QueryCache.Proofs.Calendar.Text
import QueryCache.Proofs.Key.Legible
import QueryCache.Proofs.Repository.Determined
import QueryCache.Proofs.Repository.Canonical
import QueryCache.Proofs.Predicate.Placeholders
import QueryCache.Proofs.Predicate.ThreeValued
import QueryCache.Proofs.Text.Digits
import QueryCache.Proofs.Criteria.WellFormed
import QueryCache.Proofs.Predicate.Wording
import QueryCache.Proofs.Criteria.Clause
import QueryCache.Proofs.Criteria.Refusals
import QueryCache.Proofs.Coordinator.Hits
import QueryCache.Proofs.Coordinator.Online
import QueryCache.Proofs.Repository.Forgetting
import QueryCache.Proofs.Entity.Sorting
import QueryCache.Proofs.Criteria.Whitelist
import QueryCache.Proofs.Repository.Paging
import QueryCache.Proofs.Value.Field
import QueryCache.Proofs.Predicate.Pattern
import QueryCache.Proofs.Predicate.Likeness
import QueryCache.Proofs.Entity.Grouping
import QueryCache.Proofs.Entity.Splitting
import QueryCache.Proofs.Repository.Splitting
import QueryCache.Proofs.Request.Locality
import QueryCache.Proofs.Criteria.Interchange
import QueryCache.Proofs.Request.Recoded
import QueryCache.Proofs.Value.Symmetry
import QueryCache.Proofs.Calendar.Ordinal
import QueryCache.Proofs.Predicate.Agreement
import QueryCache.Proofs.Repository.Repetition
import QueryCache.Proofs.Request.SearchTerm
import QueryCache.Proofs.Criteria.Identifiers
import QueryCache.Proofs.Coordinator.Conservation
import QueryCache.Proofs.Text.Nesting
import QueryCache.Proofs.Value.Congruence
import QueryCache.Proofs.Value.Literal
import QueryCache.Proofs.Predicate.Equality
import QueryCache.Proofs.Order.Heap
import QueryCache.Proofs.Cache.Consistency
import QueryCache.Proofs.Cleanup
import QueryCache.Proofs.Entity.Keys
import QueryCache.Proofs.Repository.Integrity
import QueryCache.Proofs.Coordinator.Retries
import QueryCache.Proofs.Cache.Pruning
