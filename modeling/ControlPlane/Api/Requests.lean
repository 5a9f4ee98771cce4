import ControlPlane.Api.Validation
import ControlPlane.Ingestion.Event
import ControlPlane.Ledger.Decimal
import ControlPlane.Wire.Libraries

/-! Transaction events as the REST and the gRPC handler receive them
(`internal/api/transaction_handler.go`, `internal/api/grpc_transaction_handler.go`): the
checks, and the conversion to the event that is published. -/
namespace ControlPlane.Api
open Go Ledger Ingestion Wire

def require (condition : Bool) (err : Error) : Except Error Unit := if condition then .ok () else .error err

theorem require_ok (condition : Bool) (err : Error) (value : Unit) :
    require condition err = .ok value ↔ condition = true := by
  cases condition <;> simp [require]

def missingFields : Error := .errorf "missing required fields" []

def invalidEventID : Error := .errorf "event_id must be a valid UUID" []

def invalidTenantID : Error := .errorf "tenant_id must be 1-64 lowercase letters, digits, or hyphens" []

def invalidInstrument : Error := .errorf "instrument must be 1-16 uppercase letters, digits, or dots" []

def invalidQuantity : Error :=
  .errorf "quantity must be a positive decimal number no greater than %s" [.bytes (formatAmount maxAmount)]

def invalidPrice : Error :=
  .errorf "price must be a positive decimal number no greater than %s" [.bytes (formatAmount maxAmount)]

def invalidCurrency : Error := .errorf "currency must be a 3-letter uppercase ISO 4217 code" []

def inRange (amount : Int64) : Bool := !(amount ≤ 0 || amount > maxAmount)

def succeeded {α : Type} : Except Error α → Bool
  | .ok _ => true
  | .error _ => false

theorem succeeded_iff {α : Type} (result : Except Error α) : succeeded result = true ↔ ∃ value, result = .ok value := by
  cases result <;> simp [succeeded]

def parsedInRange : Except Error Int64 → Bool
  | .ok amount => inRange amount
  | .error _ => false

structure TransactionEventRequest where
  eventID : Bytes
  tenantID : Bytes
  instrument : Bytes
  side : Bytes
  quantity : Bytes
  price : Bytes
  currency : Bytes
  occurredAt : Bytes
  deriving DecidableEq, Repr

namespace TransactionEventRequest

def missing (event : TransactionEventRequest) : Bool :=
  event.eventID.isEmpty || event.tenantID.isEmpty || event.instrument.isEmpty || event.side.isEmpty ||
    event.quantity.isEmpty || event.price.isEmpty || event.currency.isEmpty || event.occurredAt.isEmpty

def validate (libs : Libraries) (event : TransactionEventRequest) : Except Error Unit := do
  require (!event.missing) missingFields
  require (succeeded (libs.parseUUID event.eventID)) invalidEventID
  require (isValidTenantID event.tenantID) invalidTenantID
  require (isValidInstrument event.instrument) invalidInstrument
  require (Side.mk event.side = sideBuy || Side.mk event.side = sideSell)
    (.errorf "side must be %q or %q" [.bytes sideBuy.name,.bytes sideSell.name])
  require (parsedInRange (parseAmount event.quantity)) invalidQuantity
  require (parsedInRange (parseAmount event.price)) invalidPrice
  require (isValidCurrencyCode event.currency) invalidCurrency
  require (succeeded (libs.parseRFC3339 event.occurredAt)) (.errorf "occurred_at must be an RFC3339 timestamp" [])

def toIngestionEvent (libs : Libraries) (event : TransactionEventRequest) : Except Error Event := do
  let eventID ← wrapping "event_id must be a valid UUID: %w" (libs.parseUUID event.eventID)
  let quantity ← wrapping "quantity must be a valid decimal number: %w" (parseAmount event.quantity)
  let price ← wrapping "price must be a valid decimal number: %w" (parseAmount event.price)
  let occurredAt ← wrapping "occurred_at must be an RFC3339 timestamp: %w" (libs.parseRFC3339 event.occurredAt)
  return {
    eventID
    tenantID := event.tenantID
    schemaVersion := currentSchemaVersion
    instrument := event.instrument
    side := ⟨event.side⟩
    quantity,price
    currency := event.currency
    occurredAt }

end TransactionEventRequest

theorem TransactionEventRequest.validate_ok (libs : Libraries) (request : TransactionEventRequest) :
    request.validate libs = .ok () ↔ request.missing = false ∧ succeeded (libs.parseUUID request.eventID) = true ∧
      isValidTenantID request.tenantID = true ∧ isValidInstrument request.instrument = true ∧
      (Side.mk request.side = sideBuy ∨ Side.mk request.side = sideSell) ∧
      parsedInRange (parseAmount request.quantity) = true ∧ parsedInRange (parseAmount request.price) = true ∧
      isValidCurrencyCode request.currency = true ∧ succeeded (libs.parseRFC3339 request.occurredAt) = true := by
  unfold TransactionEventRequest.validate
  simp only [bind_ok,exists_and_right,require_ok,exists_const,Bool.not_eq_true',Bool.or_eq_true,decide_eq_true_eq]

/-- `ingestionv1.Side`; a proto3 enumeration can hold numbers without a name. -/
inductive ProtoSide where
  | unspecified
  | buy
  | sell
  | unrecognized (number : Int32)
  deriving DecidableEq, Repr

def sideFromProto : ProtoSide → Except Error Side
  | .buy => .ok sideBuy
  | .sell => .ok sideSell
  | _ => .error (.errorf "side must be SIDE_BUY or SIDE_SELL" [])

/-- `ingestionv1.TransactionEvent`. -/
structure TransactionEvent where
  eventId : Bytes
  tenantId : Bytes
  instrument : Bytes
  side : ProtoSide
  quantity : Int64
  price : Int64
  currency : Bytes
  occurredAt : Option Timestamp
  deriving DecidableEq, Repr

namespace TransactionEvent

def missing (event : TransactionEvent) : Bool :=
  event.eventId.isEmpty || event.tenantId.isEmpty || event.instrument.isEmpty || event.currency.isEmpty ||
    event.occurredAt.isNone

/-- The accessors of a missing timestamp read zero. -/
def getOccurredAt (event : TransactionEvent) : Timestamp := event.occurredAt.getD ⟨0,0⟩

end TransactionEvent

def validateTransactionEvent (libs : Libraries) (event : TransactionEvent) : Except Error Unit := do
  require (!event.missing) missingFields
  require (succeeded (libs.parseUUID event.eventId)) invalidEventID
  require (isValidTenantID event.tenantId) invalidTenantID
  require (isValidInstrument event.instrument) invalidInstrument
  let _ ← sideFromProto event.side
  require (inRange event.quantity) invalidQuantity
  require (inRange event.price) invalidPrice
  require (isValidCurrencyCode event.currency) invalidCurrency
  wrapping "occurred_at must be a valid timestamp: %w" (libs.checkValid event.getOccurredAt)

theorem validateTransactionEvent_ok (libs : Libraries) (source : TransactionEvent) :
    validateTransactionEvent libs source = .ok () ↔ source.missing = false ∧
      succeeded (libs.parseUUID source.eventId) = true ∧ isValidTenantID source.tenantId = true ∧
      isValidInstrument source.instrument = true ∧ (source.side = .buy ∨ source.side = .sell) ∧
      inRange source.quantity = true ∧ inRange source.price = true ∧ isValidCurrencyCode source.currency = true ∧
      libs.checkValid source.getOccurredAt = .ok () := by
  have sides : (∃ side, sideFromProto source.side = .ok side) ↔ source.side = .buy ∨ source.side = .sell := by
    cases source.side <;> simp [sideFromProto]
  unfold validateTransactionEvent
  simp only [bind_ok,exists_and_right,require_ok,exists_const,sides,wrapping_ok,Bool.not_eq_true']

def transactionEventToIngestionEvent (libs : Libraries) (event : TransactionEvent) : Except Error Event := do
  let eventID ← wrapping "event_id must be a valid UUID: %w" (libs.parseUUID event.eventId)
  let side ← sideFromProto event.side
  return {
    eventID
    tenantID := event.tenantId
    schemaVersion := currentSchemaVersion
    instrument := event.instrument
    side
    quantity := event.quantity
    price := event.price
    currency := event.currency
    occurredAt := libs.asTime event.getOccurredAt }

end ControlPlane.Api
