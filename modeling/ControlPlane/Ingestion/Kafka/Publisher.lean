import ControlPlane.Ingestion.Event
import ControlPlane.Ingestion.Kafka.Partitioner
import ControlPlane.Ledger.Decimal
import ControlPlane.Wire.Libraries

/-! `Publisher.Publish` (`internal/ingestion/kafka/publisher.go`): the payload that an event is
written as, and the record that carries it. -/
namespace ControlPlane.Ingestion.Kafka
open Go Ledger Wire

structure WireEvent where
  eventID : Bytes
  tenantID : Bytes
  schemaVersion : Int16
  instrument : Bytes
  side : Bytes
  quantity : Bytes
  price : Bytes
  currency : Bytes
  occurredAt : Bytes

/-- The object that `json.Marshal` writes for the tags of the structure. -/
def WireEvent.object (wire : WireEvent) : Object :=
  [(text "event_id",.string wire.eventID),
    (text "tenant_id",.string wire.tenantID),
    (text "schema_version",.number wire.schemaVersion.toInt),
    (text "instrument",.string wire.instrument),
    (text "side",.string wire.side),
    (text "quantity",.string wire.quantity),
    (text "price",.string wire.price),
    (text "currency",.string wire.currency),
    (text "occurred_at",.string wire.occurredAt)]

structure ProducerRecord where
  topic : Bytes
  key : Bytes
  value : Bytes
  deriving DecidableEq, Repr

structure Publisher where
  libs : Libraries
  topic : Bytes

namespace Publisher

def wireEvent (pub : Publisher) (event : Event) : WireEvent where
  eventID := pub.libs.uuidString event.eventID
  tenantID := event.tenantID
  schemaVersion := event.schemaVersion
  instrument := event.instrument
  side := event.side.name
  quantity := formatAmount event.quantity
  price := formatAmount event.price
  currency := event.currency
  occurredAt := pub.libs.formatRFC3339Nano event.occurredAt

def record (pub : Publisher) (event : Event) : Except Error ProducerRecord := do
  let payload ← wrapping "publish transaction event: marshal payload: %w"
    (pub.libs.marshal (pub.wireEvent event).object)
  return ⟨pub.topic,partitionKey event.tenantID event.instrument,payload⟩

/-- `Publish`, given what `ProduceSync` answers for a record. -/
def publish (pub : Publisher) (produceSync : ProducerRecord → Except Error Unit) (event : Event) :
    Except Error Unit := do
  let record ← pub.record event
  (produceSync record).mapError (.wrap "publish transaction event to kafka topic %q: %w" [.bytes pub.topic])

end Publisher

end ControlPlane.Ingestion.Kafka
