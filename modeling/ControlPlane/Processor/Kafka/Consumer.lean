import ControlPlane.Effect.Program
import ControlPlane.Ledger.Types

/-! The processor's Kafka consumer (`internal/processor/kafka/consumer.go`): `Run`, its two
callbacks, `reconcileWithRetry` and `publishToDLQ`, as programs over the Kafka client, the
reconciler, the context, the clock and the two gauges. The variables that the callbacks
capture are passed along. The log lines are left out. -/
namespace ControlPlane.Processor.Kafka
open Go Ledger Effect Effect.Program

structure Record where
  topic : Bytes
  partition : Int32
  offset : Int64
  key : Bytes
  value : Bytes
  deriving DecidableEq, Repr

structure FetchPartition where
  highWatermark : Int64
  records : List Record

structure FetchError where
  topic : Bytes
  partition : Int32
  err : Error

structure Fetches where
  errors : List FetchError
  partitions : List FetchPartition

structure DLQEvent where
  originalTopic : Bytes
  originalPartition : Int32
  originalOffset : Int64
  payload : Bytes
  failureReason : Bytes
  attempts : Int64
  failedAt : Bytes
  deriving DecidableEq, Repr

structure ProducedRecord where
  topic : Bytes
  key : Bytes
  value : Bytes
  deriving DecidableEq, Repr

/-- `Consumer`, with the libraries it calls: the payload decoder, `json.Marshal`, the text
of an error and the RFC3339Nano text of a time. -/
structure Consumer where
  dlqTopic : Bytes
  maxRetries : Int64
  maxPollRecords : Int64
  metrics : Bool
  decode : Bytes → Except Error Transaction
  marshal : DLQEvent → Except Error Bytes
  errorText : Error → Bytes
  formatTime : Time → Bytes

inductive ConsumerCall where
  | pollRecords (maxPollRecords : Int64)
  | ctxErr
  | reconcile (txn : Transaction)
  | now
  | produceSync (record : ProducedRecord)
  | observeLag (tenantID : Bytes) (lag : Int64)
  | observeActiveConsumers (counts : List (Bytes × Int32))

def ConsumerCall.Reply : ConsumerCall → Type
  | .pollRecords _ => Fetches
  | .ctxErr => Option Error
  | .reconcile _ => Except Error Unit
  | .now => Time
  | .produceSync _ => Option Error
  | .observeLag _ _ => Unit
  | .observeActiveConsumers _ => Unit

abbrev Consuming := Unrolled ConsumerCall.Reply

def pollRecords (maxPollRecords : Int64) : Consuming Fetches := ask (ConsumerCall.pollRecords maxPollRecords)

def ctxErr : Consuming (Option Error) := ask ConsumerCall.ctxErr

def reconcileCall (txn : Transaction) : Consuming (Except Error Unit) := ask (ConsumerCall.reconcile txn)

def now : Consuming Time := ask ConsumerCall.now

def produceSync (record : ProducedRecord) : Consuming (Option Error) := ask (ConsumerCall.produceSync record)

def observeLag (tenantID : Bytes) (lag : Int64) : Consuming Unit := ask (ConsumerCall.observeLag tenantID lag)

def observeActiveConsumers (counts : List (Bytes × Int32)) : Consuming Unit :=
  ask (ConsumerCall.observeActiveConsumers counts)

structure PollState where
  dlqErr : Option Error
  activePartitions : List (Bytes × Int32)

structure BatchState where
  dlqErr : Option Error
  lastTenantID : Bytes
  lastOffset : Int64
  sawRecord : Bool

def countPartition : List (Bytes × Int32) → Bytes → List (Bytes × Int32)
  | [],tenantID => [(tenantID,1)]
  | (counted,count)::rest,tenantID =>
    if counted = tenantID then (counted,count+1)::rest else (counted,count)::countPartition rest tenantID

namespace Consumer

def dlqEvent (con : Consumer) (record : Record) (failureErr : Error) (attempts : Int64) (failedAt : Time) :
    DLQEvent where
  originalTopic := record.topic
  originalPartition := record.partition
  originalOffset := record.offset
  payload := record.value
  failureReason := con.errorText failureErr
  attempts := attempts
  failedAt := con.formatTime failedAt

def publishToDLQ (con : Consumer) (record : Record) (failureErr : Error) (attempts : Int64) :
    Consuming (Option Error) := do
  match con.marshal (con.dlqEvent record failureErr attempts (← now)) with
  | .error err => return some (.wrap "publish to dlq: marshal failure event: %w" [] err)
  | .ok payload =>
    match ← produceSync ⟨con.dlqTopic,record.key,payload⟩ with
    | some err => return some (.wrap "publish to dlq topic %q: %w" [.bytes con.dlqTopic] err)
    | none => return none

def retryRound (con : Consumer) (txn : Transaction) :
    Int64 × Option Error → Consuming ((Int64 × Option Error) ⊕ (Int64 × Option Error))
  | (attempt,lastErr) =>
    if attempt ≤ con.maxRetries+1 then do
      match ← reconcileCall txn with
      | .ok () => return .inr (attempt,none)
      | .error err =>
        match ← ctxErr with
        | some _ => return .inr (attempt,some err)
        | none => return .inl (attempt+1,some err)
    else return .inr (con.maxRetries+1,lastErr)

def reconcileWithRetry (con : Consumer) (fuel : Nat) (txn : Transaction) : Consuming (Int64 × Option Error) :=
  loop (con.retryRound txn) fuel (1,none)

def routeUndecodable (con : Consumer) (batch : BatchState) (record : Record) (decodeErr : Error) :
    Consuming BatchState := do
  match ← con.publishToDLQ record decodeErr 1 with
  | some err => return {batch with dlqErr := some (.wrap
      "route undecodable record on topic %q partition %d offset %d to dlq: %w"
      [.bytes record.topic,.int record.partition.toInt,.int record.offset.toInt] err)}
  | none => return batch

def routeFailure (con : Consumer) (batch : BatchState) (record : Record) (txn : Transaction) :
    Int64 × Option Error → Consuming BatchState
  | (_,none) => return batch
  | (attempts,some reconcileErr) => do
    match ← con.publishToDLQ record reconcileErr attempts with
    | some err => return {batch with dlqErr := some (.wrap "route reconcile failure for event %s to dlq: %w"
        [.bytes txn.eventID.toList] err)}
    | none => return batch

def eachRecord (con : Consumer) (fuel : Nat) (batch : BatchState) (record : Record) : Consuming BatchState :=
  if batch.dlqErr.isSome then return batch
  else
    let batch := {batch with sawRecord := true,lastOffset := record.offset}
    match con.decode record.value with
    | .error decodeErr => con.routeUndecodable batch record decodeErr
    | .ok txn => do
      con.routeFailure {batch with lastTenantID := txn.tenantID} record txn (← con.reconcileWithRetry fuel txn)

def reportLag (con : Consumer) (poll : PollState) (partition : FetchPartition) (batch : BatchState) :
    Consuming PollState :=
  if batch.sawRecord && con.metrics then do
    observeLag batch.lastTenantID (partition.highWatermark-1-batch.lastOffset)
    return ⟨batch.dlqErr,countPartition poll.activePartitions batch.lastTenantID⟩
  else return {poll with dlqErr := batch.dlqErr}

def eachPartition (con : Consumer) (fuel : Nat) (poll : PollState) (partition : FetchPartition) :
    Consuming PollState :=
  if poll.dlqErr.isSome then return poll
  else do con.reportLag poll partition (← partition.records.foldlM (con.eachRecord fuel) ⟨none,[],0,false⟩)

def stopOn (err : Error) : Consuming (Unit ⊕ Option Error) := do
  match ← ctxErr with
  | some _ => return .inr none
  | none => return .inr (some err)

def endPoll (con : Consumer) (poll : PollState) : Consuming (Unit ⊕ Option Error) := do
  if con.metrics then observeActiveConsumers poll.activePartitions
  match poll.dlqErr with
  | some err => stopOn err
  | none => return .inl ()

def pollOnce (con : Consumer) (fuel : Nat) : Consuming (Unit ⊕ Option Error) := do
  let fetches ← pollRecords con.maxPollRecords
  match fetches.errors with
  | first::_ => stopOn (.wrap "consume transaction events from kafka topic %q partition %d: %w"
      [.bytes first.topic,.int first.partition.toInt] first.err)
  | [] =>
    match ← ctxErr with
    | some _ => return .inr none
    | none => con.endPoll (← fetches.partitions.foldlM (con.eachPartition fuel) ⟨none,[]⟩)

/-- `Run`, for a number of rounds of each of its loops; the value is the error it returns. -/
def run (con : Consumer) (fuel : Nat) : Consuming (Option Error) := loop (fun _ => con.pollOnce fuel) fuel ()

end Consumer

end ControlPlane.Processor.Kafka
