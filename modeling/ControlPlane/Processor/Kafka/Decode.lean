import ControlPlane.Ledger.Decimal
import ControlPlane.Wire.Libraries

/-! `decodeTransaction` (`internal/processor/kafka/consumer.go`): a record's payload as a
transaction of the ledger. A field that is missing from the object keeps its zero value;
one of another type is refused, as are numbers that do not fit. -/
namespace ControlPlane.Processor.Kafka
open Go Ledger Wire

structure WireEvent where
  eventID : Bytes
  tenantID : Bytes
  schemaVersion : Int16
  instrument : Bytes
  side : Bytes
  quantity : Bytes
  price : Bytes
  currency : Bytes
  occurredAt : Bytes

def typeMismatch (name : Bytes) : Error := .errorf "json: cannot unmarshal into Go struct field wireEvent.%s"
  [.bytes name]

def stringField (object : Object) (name : Bytes) : Except Error Bytes :=
  match object.lookup name with
  | none => .ok []
  | some (.string value) => .ok value
  | some (.number _) => .error (typeMismatch name)

def int16Field (object : Object) (name : Bytes) : Except Error Int16 :=
  match object.lookup name with
  | none => .ok 0
  | some (.string _) => .error (typeMismatch name)
  | some (.number value) => if -2^15 ≤ value ∧ value < 2^15 then .ok (Int16.ofInt value) else .error (typeMismatch name)

/-- What `json.Unmarshal` fills in for the tags of the structure. -/
def WireEvent.ofObject (object : Object) : Except Error WireEvent := do
  return {
    eventID := ← stringField object (text "event_id")
    tenantID := ← stringField object (text "tenant_id")
    schemaVersion := ← int16Field object (text "schema_version")
    instrument := ← stringField object (text "instrument")
    side := ← stringField object (text "side")
    quantity := ← stringField object (text "quantity")
    price := ← stringField object (text "price")
    currency := ← stringField object (text "currency")
    occurredAt := ← stringField object (text "occurred_at") }

def WireEvent.unmarshal (libs : Libraries) (value : Bytes) : Except Error WireEvent := do
  let object ← libs.unmarshal value
  WireEvent.ofObject object

def decodeTransaction (libs : Libraries) (value : Bytes) : Except Error Transaction := do
  let wire ← wrapping "decode transaction event: unmarshal payload: %w" (WireEvent.unmarshal libs value)
  let eventID ← wrapping "decode transaction event: parse event id: %w" (libs.parseUUID wire.eventID)
  let quantity ← wrapping "decode transaction event: parse quantity: %w" (parseAmount wire.quantity)
  let price ← wrapping "decode transaction event: parse price: %w" (parseAmount wire.price)
  let occurredAt ← wrapping "decode transaction event: parse occurred_at: %w" (libs.parseRFC3339Nano wire.occurredAt)
  return {
    id := 0
    eventID
    tenantID := wire.tenantID
    schemaVersion := wire.schemaVersion
    instrument := wire.instrument
    side := ⟨wire.side⟩
    quantity,price
    currency := wire.currency
    occurredAt }

end ControlPlane.Processor.Kafka
