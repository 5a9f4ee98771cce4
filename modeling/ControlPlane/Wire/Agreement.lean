import ControlPlane.Api.Requests
import ControlPlane.Ingestion.Kafka.Publisher
import ControlPlane.Ledger.AmountText
import ControlPlane.Ledger.Storage
import ControlPlane.Processor.Kafka.Decode
import ControlPlane.Wire.Standard

/-! The ingestion service and the processor agree on events: what either handler accepts is
converted and published without failing, and the processor reads the same transaction from
the payload. -/
namespace ControlPlane.Wire
open Go Ledger Api Ingestion

/-- An event that an accepted request is converted to. -/
structure WellFormed (libs : Libraries) (event : Event) : Prop where
  tenant : isValidTenantID event.tenantID = true
  instrument : isValidInstrument event.instrument = true
  side : event.side = sideBuy ∨ event.side = sideSell
  quantity : inRange event.quantity = true
  price : inRange event.price = true
  currency : isValidCurrencyCode event.currency = true
  occurredAt : libs.Admits event.occurredAt

/-- The transaction carries the event. -/
structure Carries (event : Event) (txn : Transaction) : Prop where
  eventID : txn.eventID = event.eventID
  tenantID : txn.tenantID = event.tenantID
  schemaVersion : txn.schemaVersion = event.schemaVersion
  instrument : txn.instrument = event.instrument
  side : txn.side = event.side
  quantity : txn.quantity = event.quantity
  price : txn.price = event.price
  currency : txn.currency = event.currency
  instant : txn.occurredAt.instant = event.occurredAt.instant

theorem inRange_bounds {amount : Int64} (accepted : inRange amount = true) : 0 < amount.toInt ∧
    amount.toInt ≤ maxAmount.toInt := by
  simp only [inRange,Bool.not_eq_true',Bool.or_eq_false_iff,decide_eq_false_iff_not,Int64.le_iff_toInt_le,gt_iff_lt,
    Int64.lt_iff_toInt_lt,Int64.toInt_zero] at accepted
  omega

theorem positive_above {amount : Int64} (positive : 0 < amount.toInt) : amount ≠ Int64.minValue := by
  rintro rfl
  exact absurd positive (by decide)

theorem formatAmount_ascii (amount : Int64) : IsASCII (formatAmount amount) := by
  have all := padDigits_digits _ (Digits.render_digits (magnitudeOf amount).toNat)
  have whole : ∀ count, IsASCII ((padDigits (formatUint (magnitudeOf amount))).take count) :=
    fun count => digits_ascii _ fun char member => all char (List.mem_of_mem_take member)
  have frac : ∀ count, IsASCII ((padDigits (formatUint (magnitudeOf amount))).drop count) :=
    fun count => digits_ascii _ fun char member => all char (List.mem_of_mem_drop member)
  unfold formatAmount
  split <;> simp [dot,whole,frac]

theorem keyChars_ascii {s : Bytes} (all : ∀ char ∈ s, KeyChar char) : IsASCII s :=
  fun char member => (all char member).1

/-- What the processor's structure holds for a payload of the ingestion service. -/
def readBack (wire : Ingestion.Kafka.WireEvent) : Processor.Kafka.WireEvent :=
  ⟨wire.eventID,wire.tenantID,wire.schemaVersion,wire.instrument,wire.side,wire.quantity,wire.price,wire.currency,
    wire.occurredAt⟩

/-- The two structures name their fields alike. -/
theorem unmarshal_object (libs : Libraries) (payload : Bytes) (wire : Ingestion.Kafka.WireEvent)
    (read : libs.unmarshal payload = .ok wire.object) :
    Processor.Kafka.WireEvent.unmarshal libs payload = .ok (readBack wire) := by
  have version : Processor.Kafka.int16Field wire.object (text "schema_version") = .ok wire.schemaVersion := by
    change (if -2^15 ≤ wire.schemaVersion.toInt ∧ wire.schemaVersion.toInt < 2^15 then _ else _) = _
    rw [if_pos ⟨wire.schemaVersion.le_toInt,wire.schemaVersion.toInt_lt⟩,Int16.ofInt_toInt]
  unfold Processor.Kafka.WireEvent.unmarshal
  rw [read]
  change Processor.Kafka.WireEvent.ofObject wire.object = _
  unfold Processor.Kafka.WireEvent.ofObject
  rw [version]
  rfl

/-- The tags of the two structures. -/
def wireTags : List Bytes :=
  [text "event_id",text "tenant_id",text "schema_version",text "instrument",text "side",text "quantity",text "price",
    text "currency",text "occurred_at"]

theorem object_values (libs : Libraries) (laws : libs.Rereads) (topic : Bytes) (event : Event)
    (formed : WellFormed libs event) (restored : libs.Restores event.occurredAt) :
    ∀ field ∈ (Ingestion.Kafka.Publisher.wireEvent ⟨libs,topic⟩ event).object, PlainValue field.2 := by
  have side : IsASCII event.side.name := by
    rcases formed.side with buy | sell
    · rw [buy]
      decide
    · rw [sell]
      decide
  intro field member
  simp only [Ingestion.Kafka.WireEvent.object,Ingestion.Kafka.Publisher.wireEvent,List.mem_cons,List.not_mem_nil,
    or_false] at member
  rcases member with rfl | rfl | rfl | rfl | rfl | rfl | rfl | rfl | rfl
  · exact (laws.uuid event.eventID).1
  · exact keyChars_ascii (tenantID_keyChars formed.tenant)
  · exact ⟨event.schemaVersion.le_toInt,event.schemaVersion.toInt_lt⟩
  · exact keyChars_ascii (instrument_keyChars formed.instrument)
  · exact side
  · exact formatAmount_ascii event.quantity
  · exact formatAmount_ascii event.price
  · exact keyChars_ascii (currencyCode_keyChars formed.currency)
  · exact restored.1

theorem object_plain (libs : Libraries) (laws : libs.Rereads) (topic : Bytes) (event : Event)
    (formed : WellFormed libs event) (restored : libs.Restores event.occurredAt) :
    PlainObject (Ingestion.Kafka.Publisher.wireEvent ⟨libs,topic⟩ event).object where
  distinct := by
    change wireTags.Nodup
    decide
  names := by
    change ∀ name ∈ wireTags, IsASCII name
    decide
  values := object_values libs laws topic event formed restored

/-- A well-formed event whose time is restored is published, and the processor reads it from the
payload. -/
theorem published_decodes (libs : Libraries) (laws : libs.Rereads) (topic : Bytes) (event : Event)
    (formed : WellFormed libs event) (restored : libs.Restores event.occurredAt) :
    ∃ record txn, Ingestion.Kafka.Publisher.record ⟨libs,topic⟩ event = .ok record ∧
      Processor.Kafka.decodeTransaction libs record.value = .ok txn ∧ Carries event txn ∧ CheckConstraints txn := by
  obtain ⟨payload,written,read⟩ := laws.json _ (object_plain libs laws topic event formed restored)
  obtain ⟨-,occurredAt,parsed,instant⟩ := restored
  have quantity := inRange_bounds formed.quantity
  have price := inRange_bounds formed.price
  refine ⟨⟨topic,Ingestion.Kafka.partitionKey event.tenantID event.instrument,payload⟩,
    ⟨0,event.eventID,event.tenantID,event.schemaVersion,event.instrument,event.side,event.quantity,event.price,
      event.currency,
      occurredAt⟩,?_,?_,⟨rfl,rfl,rfl,rfl,rfl,rfl,rfl,rfl,instant⟩,?_⟩
  · unfold Ingestion.Kafka.Publisher.record
    rw [written]
    rfl
  · unfold Processor.Kafka.decodeTransaction
    simp only [unmarshal_object libs payload _ read,readBack,Ingestion.Kafka.Publisher.wireEvent,wrapping,
      Except.mapError,
      bind,Except.bind,(laws.uuid event.eventID).2,parseAmount_formatAmount event.quantity (positive_above quantity.1),
      parseAmount_formatAmount event.price (positive_above price.1),parsed,pure,Except.pure]
  · exact ⟨formed.side,Int64.lt_iff_toInt_lt.mpr quantity.1,Int64.lt_iff_toInt_lt.mpr price.1⟩

theorem parsedInRange_ok {result : Except Error Int64} (accepted : parsedInRange result = true) :
    ∃ amount, result = .ok amount ∧ inRange amount = true := by
  cases result with
  | error err => contradiction
  | ok amount => exact ⟨amount,rfl,accepted⟩

/-- What `validate` accepts is converted. -/
theorem request_converts (libs : Libraries) (request : TransactionEventRequest)
    (valid : request.validate libs = .ok ()) :
    ∃ event, request.toIngestionEvent libs = .ok event ∧ WellFormed libs event ∧
      libs.parseUUID request.eventID = .ok event.eventID ∧ event.tenantID = request.tenantID ∧
      event.schemaVersion = currentSchemaVersion ∧ event.instrument = request.instrument ∧
      event.side.name = request.side ∧
      parseAmount request.quantity = .ok event.quantity ∧ parseAmount request.price = .ok event.price ∧
      event.currency = request.currency ∧ libs.parseRFC3339 request.occurredAt = .ok event.occurredAt := by
  obtain ⟨-,eventID,tenant,instrument,side,quantity,price,currency,occurredAt⟩ := (request.validate_ok libs).mp valid
  obtain ⟨id,eventID⟩ := (succeeded_iff _).mp eventID
  obtain ⟨quantityValue,quantity,quantityRange⟩ := parsedInRange_ok quantity
  obtain ⟨priceValue,price,priceRange⟩ := parsedInRange_ok price
  obtain ⟨time,occurredAt⟩ := (succeeded_iff _).mp occurredAt
  refine ⟨⟨id,request.tenantID,currentSchemaVersion,request.instrument,⟨request.side⟩,quantityValue,priceValue,
    request.currency,time⟩,?_,⟨tenant,instrument,side,quantityRange,priceRange,currency,Or.inl ⟨_,occurredAt⟩⟩,
    eventID,rfl,rfl,rfl,rfl,quantity,price,rfl,occurredAt⟩
  unfold TransactionEventRequest.toIngestionEvent
  simp only [eventID,quantity,price,occurredAt,wrapping,Except.mapError,bind,Except.bind,pure,Except.pure]

/-- What `validateTransactionEvent` accepts is converted. -/
theorem transactionEvent_converts (libs : Libraries) (source : TransactionEvent)
    (valid : validateTransactionEvent libs source = .ok ()) :
    ∃ event, transactionEventToIngestionEvent libs source = .ok event ∧ WellFormed libs event ∧
      libs.parseUUID source.eventId = .ok event.eventID ∧ event.tenantID = source.tenantId ∧
      event.schemaVersion = currentSchemaVersion ∧ event.instrument = source.instrument ∧
      sideFromProto source.side = .ok event.side ∧ event.quantity = source.quantity ∧ event.price = source.price ∧
      event.currency = source.currency ∧ source.occurredAt.map libs.asTime = some event.occurredAt := by
  obtain ⟨given,eventID,tenant,instrument,direction,quantity,price,currency,occurredAt⟩ :=
    (validateTransactionEvent_ok libs source).mp valid
  obtain ⟨id,eventID⟩ := (succeeded_iff _).mp eventID
  obtain ⟨side,converted,sides⟩ : ∃ side, sideFromProto source.side = .ok side ∧
    (side = sideBuy ∨ side = sideSell) := by
    rcases direction with buy | sell
    · exact ⟨sideBuy,by rw [buy]; rfl,Or.inl rfl⟩
    · exact ⟨sideSell,by rw [sell]; rfl,Or.inr rfl⟩
  have present : source.occurredAt.map libs.asTime = some (libs.asTime source.getOccurredAt) := by
    unfold TransactionEvent.getOccurredAt
    cases time : source.occurredAt with
    | some timestamp => rfl
    | none => simp [TransactionEvent.missing,time] at given
  refine ⟨⟨id,source.tenantId,currentSchemaVersion,source.instrument,side,source.quantity,source.price,source.currency,
    libs.asTime source.getOccurredAt⟩,?_,⟨tenant,instrument,sides,quantity,price,currency,
      Or.inr ⟨_,occurredAt,rfl⟩⟩,eventID,rfl,rfl,rfl,converted,rfl,rfl,rfl,present⟩
  unfold transactionEventToIngestionEvent
  simp only [eventID,converted,wrapping,Except.mapError,bind,Except.bind,pure,Except.pure]

structure RequestAgrees (libs : Libraries) (request : TransactionEventRequest) (txn : Transaction) : Prop where
  eventID : libs.parseUUID request.eventID = .ok txn.eventID
  tenantID : txn.tenantID = request.tenantID
  schemaVersion : txn.schemaVersion = currentSchemaVersion
  instrument : txn.instrument = request.instrument
  side : txn.side.name = request.side
  quantity : (txn.quantity.toInt : ℚ) = decimalValue request.quantity * amountScale.toInt
  price : (txn.price.toInt : ℚ) = decimalValue request.price * amountScale.toInt
  currency : txn.currency = request.currency
  instant : ∃ time, libs.parseRFC3339 request.occurredAt = .ok time ∧ txn.occurredAt.instant = time.instant

structure TransactionEventAgrees (libs : Libraries) (source : TransactionEvent) (txn : Transaction) : Prop where
  eventID : libs.parseUUID source.eventId = .ok txn.eventID
  tenantID : txn.tenantID = source.tenantId
  schemaVersion : txn.schemaVersion = currentSchemaVersion
  instrument : txn.instrument = source.instrument
  side : sideFromProto source.side = .ok txn.side
  quantity : txn.quantity = source.quantity
  price : txn.price = source.price
  currency : txn.currency = source.currency
  instant : source.occurredAt.map (fun timestamp => (libs.asTime timestamp).instant) = some txn.occurredAt.instant

/-- What either handler accepts is converted and published, and the processor reads the same
transaction from the payload, one that the ledger's table admits. -/
theorem services_agree (libs : Libraries) (laws : libs.RoundTrips) (topic : Bytes) :
    (∀ request : TransactionEventRequest, request.validate libs = .ok () →
      ∃ event record txn, request.toIngestionEvent libs = .ok event ∧
        Ingestion.Kafka.Publisher.record ⟨libs,topic⟩ event = .ok record ∧
        Processor.Kafka.decodeTransaction libs record.value = .ok txn ∧ RequestAgrees libs request txn ∧
          CheckConstraints txn) ∧
    (∀ source : TransactionEvent, validateTransactionEvent libs source = .ok () →
      ∃ event record txn, transactionEventToIngestionEvent libs source = .ok event ∧
        Ingestion.Kafka.Publisher.record ⟨libs,topic⟩ event = .ok record ∧
        Processor.Kafka.decodeTransaction libs record.value = .ok txn ∧ TransactionEventAgrees libs source txn ∧
        CheckConstraints txn) := by
  constructor
  · intro request valid
    obtain ⟨event,converted,formed,eventID,tenant,version,instrument,side,quantity,price,currency,occurredAt⟩ :=
      request_converts libs request valid
    obtain ⟨record,txn,published,decoded,same,admitted⟩ :=
      published_decodes libs laws.toRereads topic event formed (laws.time _ formed.occurredAt)
    refine ⟨event,record,txn,converted,published,decoded,?_,admitted⟩
    exact {
      eventID := by rw [same.eventID,eventID]
      tenantID := same.tenantID.trans tenant
      schemaVersion := same.schemaVersion.trans version
      instrument := same.instrument.trans instrument
      side := by rw [same.side,side]
      quantity := by rw [same.quantity,parseAmount_value _ _ quantity]
      price := by rw [same.price,parseAmount_value _ _ price]
      currency := same.currency.trans currency
      instant := ⟨event.occurredAt,occurredAt,same.instant⟩ }
  · intro source valid
    obtain ⟨event,converted,formed,eventID,tenant,version,instrument,side,quantity,price,currency,occurredAt⟩ :=
      transactionEvent_converts libs source valid
    obtain ⟨record,txn,published,decoded,same,admitted⟩ :=
      published_decodes libs laws.toRereads topic event formed (laws.time _ formed.occurredAt)
    refine ⟨event,record,txn,converted,published,decoded,?_,admitted⟩
    exact {
      eventID := by rw [same.eventID,eventID]
      tenantID := same.tenantID.trans tenant
      schemaVersion := same.schemaVersion.trans version
      instrument := same.instrument.trans instrument
      side := by rw [same.side,side]
      quantity := same.quantity.trans quantity
      price := same.price.trans price
      currency := same.currency.trans currency
      instant := by
        obtain ⟨timestamp,given,time⟩ := Option.map_eq_some_iff.mp occurredAt
        rw [given,same.instant,← time]
        rfl }

def sampleRequest : TransactionEventRequest where
  eventID := text "6ba7b810-9dad-11d1-80b4-00c04fd430c8"
  tenantID := text "acme"
  instrument := text "AAPL"
  side := text "BUY"
  quantity := text "+15e-1"
  price := text "12.34500000"
  currency := text "USD"
  occurredAt := text "2024-01-02T03:04:05Z"

theorem services_agree_on_sample :
    standard.RoundTrips ∧ sampleRequest.validate standard = .ok () ∧
      ∃ event record txn, sampleRequest.toIngestionEvent standard = .ok event ∧
        Ingestion.Kafka.Publisher.record ⟨standard,text "transaction-events"⟩ event = .ok record ∧
        Processor.Kafka.decodeTransaction standard record.value = .ok txn ∧ RequestAgrees standard sampleRequest txn ∧
        CheckConstraints txn := by
  have valid : sampleRequest.validate standard = .ok () := by decide +kernel
  refine ⟨standard_roundTrips,valid,?_⟩
  exact (services_agree standard standard_roundTrips (text "transaction-events")).1 sampleRequest valid

end ControlPlane.Wire
