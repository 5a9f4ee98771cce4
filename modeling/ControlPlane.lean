import ControlPlane.Effect.Program
import ControlPlane.Processor.Conservation
import ControlPlane.Processor.ExactlyOnce
import ControlPlane.Processor.Kafka.Consumer
import ControlPlane.Processor.AbandonedRecords
import ControlPlane.Allocation.Blocks
import ControlPlane.Ingestion.Kafka.Partitioner
import ControlPlane.Ingestion.Kafka.ReservationLayout
import ControlPlane.Ingestion.Kafka.ReservationPool
import ControlPlane.Ingestion.Kafka.ArrivalOrder
import ControlPlane.Ingestion.Kafka.ReservedCounts
import ControlPlane.Ingestion.Kafka.Routing
import ControlPlane.Api.Validation
import ControlPlane.Ingestion.Kafka.Exclusivity
import ControlPlane.Ingestion.Kafka.PartitionSafety
import ControlPlane.Data.Digits
import ControlPlane.Go.Strconv
import ControlPlane.Ledger.Decimal
import ControlPlane.Api.Requests
import ControlPlane.Ingestion.Kafka.Publisher
import ControlPlane.Processor.Kafka.Decode
import ControlPlane.Wire.Agreement
import ControlPlane.Processor.Kafka.RecordHandling
import ControlPlane.Processor.Kafka.PollAccounting
import ControlPlane.Wire.UUIDText
import ControlPlane.Data.Calendar
import ControlPlane.Wire.TimeText
import ControlPlane.Wire.JsonText
import ControlPlane.Wire.Standard
import ControlPlane.Corebreaker.CoolDown
import ControlPlane.Corebreaker.ProbeGate
import ControlPlane.Effect.Fallible
import ControlPlane.Operator.Cluster
import ControlPlane.Operator.PartitionMap
import ControlPlane.Operator.DedicatedPool
import ControlPlane.Operator.Reconciler
import ControlPlane.Effect.Script
import ControlPlane.Operator.Footprint
import ControlPlane.Operator.Pass
import ControlPlane.Operator.Idempotence
import ControlPlane.Operator.Retry
import ControlPlane.Operator.MappingText
import ControlPlane.Operator.Lifecycle
import ControlPlane.Effect.Interleaving
import ControlPlane.Operator.SharedMap
import ControlPlane.Processor.Kafka.Reload
import ControlPlane.Isolation.Loop
import ControlPlane.Isolation.Agreement
import ControlPlane.Ingestion.Kafka.Feedback
import ControlPlane.Processor.TenantSeparation
import ControlPlane.Go.Strings
import ControlPlane.Processor.Kafka.PartitionList
import ControlPlane.Isolation.PartitionList
import ControlPlane.Wire.Transports
import ControlPlane.Processor.CostBasis
import ControlPlane.Processor.Flip
import ControlPlane.Processor.Mirror
import ControlPlane.Operator.ReplicaBounds
import ControlPlane.Api.RateLimiter
import ControlPlane.Api.LimiterRuns
import ControlPlane.Api.Servers
import ControlPlane.Api.TransportLimits
import ControlPlane.Data.Binary64
import ControlPlane.Data.Quoting
import ControlPlane.Go.Float64
import ControlPlane.Promquery.Client
import ControlPlane.Promquery.Samples
import ControlPlane.Promquery.Selectors
import ControlPlane.Processor.Kafka.DeadLetters
import ControlPlane.Data.Selection
import ControlPlane.Effect.Layers
import ControlPlane.Ledger.Breaker
import ControlPlane.Processor.Deployment
import ControlPlane.Api.PooledHandler
import ControlPlane.Ingestion.Publishing
import ControlPlane.Ledger.GuardedCalls
import ControlPlane.Processor.Kafka.Outage
import ControlPlane.Effect.Protocols
import ControlPlane.Operator.AuditTrail
import ControlPlane.Operator.PoolSeparation
import ControlPlane.Cmd.Ingestion
import ControlPlane.Cmd.Processor
import ControlPlane.Data.Numeric
import ControlPlane.Ledger.Migrations
import ControlPlane.Processor.Kafka.Delivery
