import ControlPlane.Wire.Agreement

/-! The two transports accept and publish the same events. Each handler has validators and
conversions of its own, over its own wire types; they agree on every pair of requests that
denote one event. -/
namespace ControlPlane.Wire
open Go Ledger Api Ingestion

/-- A REST request and a gRPC event that stand for the same event. -/
structure DenoteSame (libs : Libraries) (request : TransactionEventRequest) (source : TransactionEvent) : Prop where
  eventID : request.eventID = source.eventId
  tenantID : request.tenantID = source.tenantId
  instrument : request.instrument = source.instrument
  currency : request.currency = source.currency
  buy : Side.mk request.side = sideBuy ↔ source.side = .buy
  sell : Side.mk request.side = sideSell ↔ source.side = .sell
  quantity : parseAmount request.quantity = .ok source.quantity
  price : parseAmount request.price = .ok source.price
  occurredAt : ∃ time timestamp, libs.parseRFC3339 request.occurredAt = .ok time ∧ source.occurredAt = some timestamp ∧
    libs.checkValid timestamp = .ok () ∧ time.instant = (libs.asTime timestamp).instant

theorem parsed_nonempty {literal : Bytes} {amount : Int64} (ok : parseAmount literal = .ok amount) :
    literal.isEmpty = false := by
  cases literal with
  | nil => cases ok
  | cons char rest => rfl

/-- A request that names a side is missing a field just when the event is. -/
theorem DenoteSame.missing {libs : Libraries} (blank : ∀ time, libs.parseRFC3339 [] ≠ .ok time)
    {request : TransactionEventRequest} {source : TransactionEvent} (same : DenoteSame libs request source)
    (sided : Side.mk request.side = sideBuy ∨ Side.mk request.side = sideSell) : request.missing = source.missing := by
  obtain ⟨time,timestamp,parsed,given,-,-⟩ := same.occurredAt
  have side : request.side.isEmpty = false := by
    rcases sided with buy | sell
    · rw [show request.side = sideBuy.name from congrArg Side.name buy]
      decide
    · rw [show request.side = sideSell.name from congrArg Side.name sell]
      decide
  have occurredAt : request.occurredAt.isEmpty = false := by
    cases empty : request.occurredAt with
    | nil =>
      rw [empty] at parsed
      exact absurd parsed (blank time)
    | cons char rest => rfl
  unfold TransactionEventRequest.missing TransactionEvent.missing
  rw [side,parsed_nonempty same.quantity,parsed_nonempty same.price,occurredAt,given,same.eventID,same.tenantID,
    same.instrument,same.currency]
  simp

/-- Requests that denote one event are accepted by both validators or by none, and converted to the
same event. Of `time.Parse` it is used that the empty text is no time. -/
theorem transports_agree (libs : Libraries) (blank : ∀ time, libs.parseRFC3339 [] ≠ .ok time)
    (request : TransactionEventRequest) (source : TransactionEvent) (same : DenoteSame libs request source) :
    (request.validate libs = .ok () ↔ validateTransactionEvent libs source = .ok ()) ∧
    (request.validate libs = .ok () → ∃ event other, request.toIngestionEvent libs = .ok event ∧
      transactionEventToIngestionEvent libs source = .ok other ∧ event.occurredAt.instant = other.occurredAt.instant ∧
      {event with occurredAt := other.occurredAt} = other) := by
  have accepts : request.validate libs = .ok () ↔ validateTransactionEvent libs source = .ok () := by
    obtain ⟨time,timestamp,parsed,given,valid,-⟩ := same.occurredAt
    rw [request.validate_ok,validateTransactionEvent_ok,same.quantity,same.price,parsed,same.eventID,same.tenantID,
      same.instrument,
      same.currency,TransactionEvent.getOccurredAt,given,← same.buy,← same.sell]
    simp only [parsedInRange,succeeded,Option.getD_some,valid,and_true]
    constructor
    · rintro ⟨present,id,tenant,instrument,side,rest⟩
      exact ⟨same.missing blank side ▸ present,id,tenant,instrument,side,rest⟩
    · rintro ⟨present,id,tenant,instrument,side,rest⟩
      exact ⟨(same.missing blank side).symm ▸ present,id,tenant,instrument,side,rest⟩
  refine ⟨accepts,?_⟩
  intro valid
  obtain ⟨event,converted,-,eventID,tenant,version,instrument,side,quantity,price,currency,occurredAt⟩ :=
    request_converts libs request valid
  obtain ⟨other,converted',-,eventID',tenant',version',instrument',side',quantity',price',currency',occurredAt'⟩ :=
    transactionEvent_converts libs source (accepts.mp valid)
  refine ⟨event,other,converted,converted',?_,?_⟩
  · obtain ⟨time,timestamp,parsed,given,-,instant⟩ := same.occurredAt
    rw [occurredAt] at parsed
    rw [given] at occurredAt'
    rw [Except.ok.inj parsed,← Option.some.inj occurredAt']
    exact instant
  · have id : event.eventID = other.eventID := Except.ok.inj (by rw [← eventID,← eventID',same.eventID])
    have sides : event.side = other.side := by
      have named : Side.mk request.side = event.side := by rw [← side]
      rw [← named]
      cases direction : source.side with
      | buy =>
        rw [direction] at side'
        rw [same.buy.mpr direction,Except.ok.inj side']
      | sell =>
        rw [direction] at side'
        rw [same.sell.mpr direction,Except.ok.inj side']
      | unspecified => simp [direction,sideFromProto] at side'
      | unrecognized number => simp [direction,sideFromProto] at side'
    have amount : event.quantity = other.quantity :=
      Except.ok.inj (by rw [← quantity,same.quantity,quantity'])
    have unit : event.price = other.price := Except.ok.inj (by rw [← price,same.price,price'])
    rw [id,sides,amount,unit,tenant,same.tenantID,← tenant',version,← version',instrument,same.instrument,← instrument',
      currency,same.currency,← currency']

def sampleSource : TransactionEvent where
  eventId := text "6ba7b810-9dad-11d1-80b4-00c04fd430c8"
  tenantId := text "acme"
  instrument := text "AAPL"
  side := .buy
  quantity := 150000000
  price := 1234500000
  currency := text "USD"
  occurredAt := some ⟨1704164645,0⟩

theorem transports_agree_on_sample : ∃ event other, sampleRequest.toIngestionEvent standard = .ok event ∧
    transactionEventToIngestionEvent standard sampleSource = .ok other ∧
    {event with occurredAt := other.occurredAt} = other := by
  have blank : ∀ time, standard.parseRFC3339 [] ≠ .ok time := by
    intro time parsed
    cases parsed
  have same : DenoteSame standard sampleRequest sampleSource := by
    refine ⟨rfl,rfl,rfl,rfl,?_,?_,?_,?_,⟨1704164645000000000,0⟩,⟨1704164645,0⟩,?_,rfl,?_,?_⟩ <;> decide +kernel
  have valid : sampleRequest.validate standard = .ok () := by decide +kernel
  obtain ⟨event,other,converted,converted',-,equal⟩ :=
    (transports_agree standard blank sampleRequest sampleSource same).2 valid
  exact ⟨event,other,converted,converted',equal⟩

end ControlPlane.Wire
