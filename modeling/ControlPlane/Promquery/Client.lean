import ControlPlane.Go.Float64
import ControlPlane.Go.Strings

/-! The operator's client of the metrics store: the queries for one tenant, and how the one
sample that answers a query becomes an integer. An instant query is answered when it is made;
how long the client waits for the answer does not matter here. -/
namespace ControlPlane.Promquery
open Go

def kafkaLagMetric : Bytes := text "processor_kafka_consumer_lag_messages"

def latencyBucketMetric : Bytes := text "processor_transaction_duration_seconds_bucket"

def partitionCountMetric : Bytes := text "ingestion_kafka_tenant_partition_count"

def partitionStartMetric : Bytes := text "ingestion_kafka_tenant_partition_start_count"

def latencyQuantileWindow : Bytes := text "5m"

def latencySecondsToMillis : Int := 1000

structure TenantLabel where
  name : Bytes
  value : Bytes
  deriving DecidableEq, Repr

/-- Backslashes first, then double quotes. -/
def escapePromQLString (value : Bytes) : Bytes := replaceAll (replaceAll value 92 [92,92]) 34 [92,34]

def TenantLabel.matcher (label : TenantLabel) : Bytes :=
  escapePromQLString label.name ++ [61,34] ++ escapePromQLString label.value ++ [34]

/-- The format `%s{%s}`. -/
def selector (metric : Bytes) (label : TenantLabel) : Bytes := metric ++ [123] ++ label.matcher ++ [125]

def kafkaLagQuery (label : TenantLabel) : Bytes := selector kafkaLagMetric label

def p99Query (label : TenantLabel) : Bytes :=
  text "histogram_quantile(0.99, sum(rate(" ++ selector latencyBucketMetric label ++ [91] ++ latencyQuantileWindow ++
    text "])) by (le))"

def partitionCountQuery (label : TenantLabel) : Bytes := selector partitionCountMetric label

def partitionStartQuery (label : TenantLabel) : Bytes := selector partitionStartMetric label

/-- `model.Value`: the samples of a vector, or a value of another type. -/
inductive Value where
  | vector (samples : List Float64)
  | other (type : Bytes)
  deriving DecidableEq, Repr

structure Client where
  /-- `queryAPI.Query`. -/
  query : Bytes → Except Error Value

def Client.queryScalar (client : Client) (query : Bytes) : Except Error Float64 :=
  match client.query query with
  | .error err => .error (.wrap "querying prometheus (%s): %w" [.bytes query] err)
  | .ok (.other type) =>
    .error (.errorf "querying prometheus (%s): unexpected result type %T" [.bytes query,.bytes type])
  | .ok (.vector []) => .error (.errorf "querying prometheus (%s): no series matched" [.bytes query])
  | .ok (.vector [sample]) => .ok sample
  | .ok (.vector samples) =>
    .error (.errorf "querying prometheus (%s): expected a single series, got %d" [.bytes query,.int samples.length])

/-- What the four observations do with the sample: `scale` it, round, compare with the limits of
the integer type and convert. -/
def Client.observed {α : Type} (client : Client) (context : String) (query : Bytes) (scale : Float64 → Float64)
    (least most : Int) (convert : Float64 → α) : Except Error α := do
  let value ← wrapping (context ++ ": %w") (client.queryScalar query)
  let rounded := (scale value).round
  -- `rounded > most || rounded < least`
  if (Float64.ofInt most).lt rounded || rounded.lt (Float64.ofInt least) then
    .error (.errorf (context ++ ": value %v out of range") [.float64 value.bits])
  else .ok (convert rounded)

section observations
variable (platform : Platform) (client : Client) (label : TenantLabel)

def Client.observedKafkaLag : Except Error Int64 :=
  client.observed "promquery: observed kafka lag" (kafkaLagQuery label) id Int64.minValue.toInt Int64.maxValue.toInt
    (Float64.toInt64 platform)

def Client.observedP99Ms : Except Error Int32 :=
  client.observed "promquery: observed p99 latency" (p99Query label) (·.mul (Float64.ofInt latencySecondsToMillis))
    Int32.minValue.toInt Int32.maxValue.toInt (Float64.toInt32 platform)

def Client.observedPartitionCount : Except Error Int32 :=
  client.observed "promquery: observed partition count" (partitionCountQuery label) id Int32.minValue.toInt
    Int32.maxValue.toInt (Float64.toInt32 platform)

def Client.observedPartitionStart : Except Error Int32 :=
  client.observed "promquery: observed partition start" (partitionStartQuery label) id Int32.minValue.toInt
    Int32.maxValue.toInt (Float64.toInt32 platform)

end observations

end ControlPlane.Promquery
