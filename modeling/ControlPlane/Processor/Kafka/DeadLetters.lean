import ControlPlane.Processor.Kafka.Decode
import ControlPlane.Processor.Kafka.RecordHandling
import ControlPlane.Wire.Standard

/-! The payload of a dead-letter record as JSON, and what replaying it gets back. A payload is
converted to a string of the object, so its bytes survive if they are valid UTF-8, and the
others are replaced. -/
namespace ControlPlane.Processor.Kafka
open Go Ledger Wire Effect Effect.Program

namespace DLQEvent

/-- The tags of the structure. -/
def object (event : DLQEvent) : Object :=
  [(text "original_topic",.string event.originalTopic),
    (text "original_partition",.number event.originalPartition.toInt),
    (text "original_offset",.number event.originalOffset.toInt),
    (text "payload",.string event.payload),
    (text "failure_reason",.string event.failureReason),
    (text "attempts",.number event.attempts.toInt),
    (text "failed_at",.string event.failedAt)]

def marshal (libs : Libraries) (event : DLQEvent) : Except Error Bytes := libs.marshal event.object

def readString : Json → Option Bytes
  | .string value => some value
  | .number _ => none

def readInt32 : Json → Option Int32
  | .string _ => none
  | .number value => if FitsInt32 value then some (Int32.ofInt value) else none

def readInt64 : Json → Option Int64
  | .string _ => none
  | .number value => if FitsInt64 value then some (Int64.ofInt value) else none

/-- A field that is missing keeps its zero value; one of another type or out of range is refused. -/
def readField {α : Type} (object : Object) (name : Bytes) (zero : α) (read : Json → Option α) : Except Error α :=
  match object.lookup name with
  | none => .ok zero
  | some json =>
    match read json with
    | some value => .ok value
    | none => .error (.errorf "json: cannot unmarshal into Go struct field dlqEvent.%s" [.bytes name])

def ofObject (object : Object) : Except Error DLQEvent := do
  return {
    originalTopic := ← readField object (text "original_topic") [] readString
    originalPartition := ← readField object (text "original_partition") 0 readInt32
    originalOffset := ← readField object (text "original_offset") 0 readInt64
    payload := ← readField object (text "payload") [] readString
    failureReason := ← readField object (text "failure_reason") [] readString
    attempts := ← readField object (text "attempts") 0 readInt64
    failedAt := ← readField object (text "failed_at") [] readString }

def unmarshal (libs : Libraries) (value : Bytes) : Except Error DLQEvent := do
  let object ← libs.unmarshal value
  ofObject object

/-- The event with its strings made valid. -/
def toValid (event : DLQEvent) : DLQEvent :=
  {event with
    originalTopic := toValidUTF8 event.originalTopic
    payload := toValidUTF8 event.payload
    failureReason := toValidUTF8 event.failureReason
    failedAt := toValidUTF8 event.failedAt}

theorem readInt32_toInt (value : Int32) : readInt32 (.number value.toInt) = some value := by
  rw [readInt32,if_pos (fits_toInt32 value),Int32.ofInt_toInt]

theorem readInt64_toInt (value : Int64) : readInt64 (.number value.toInt) = some value := by
  rw [readInt64,if_pos (fits_toInt64 value),Int64.ofInt_toInt]

theorem readField_found {α : Type} {object : Object} {name : Bytes} {zero value : α} {read : Json → Option α}
    {json : Json} (found : object.lookup name = some json) (accepted : read json = some value) :
    readField object name zero read = .ok value := by
  unfold readField
  rw [found]
  dsimp only
  rw [accepted]

theorem ofObject_object (event : DLQEvent) : ofObject event.object = .ok event := by
  have topic : readField event.object (text "original_topic") [] readString = .ok event.originalTopic :=
    readField_found rfl rfl
  have partition : readField event.object (text "original_partition") 0 readInt32 = .ok event.originalPartition :=
    readField_found rfl (readInt32_toInt _)
  have offset : readField event.object (text "original_offset") 0 readInt64 = .ok event.originalOffset :=
    readField_found rfl (readInt64_toInt _)
  have payload : readField event.object (text "payload") [] readString = .ok event.payload := readField_found rfl rfl
  have reason : readField event.object (text "failure_reason") [] readString = .ok event.failureReason :=
    readField_found rfl rfl
  have attempts : readField event.object (text "attempts") 0 readInt64 = .ok event.attempts :=
    readField_found rfl (readInt64_toInt _)
  have failedAt : readField event.object (text "failed_at") [] readString = .ok event.failedAt :=
    readField_found rfl rfl
  unfold ofObject
  rw [topic,partition,offset,payload,reason,attempts,failedAt]
  rfl

theorem tag_valid {name : String} (ascii : IsASCII (text name)) : toValidUTF8 (text name) = text name :=
  (toValidUTF8_eq_self _).mpr (ascii_valid ascii)

theorem toValidObject_object (event : DLQEvent) : toValidObject event.object = event.toValid.object := by
  unfold toValidObject object
  simp only [List.map_cons,List.map_nil,Json.toValid]
  rw [tag_valid (by decide),tag_valid (by decide),tag_valid (by decide),tag_valid (by decide),tag_valid (by decide),
    tag_valid (by decide),tag_valid (by decide)]
  rfl

/-- An event is read as it was written, with its strings made valid. -/
theorem unmarshal_marshal {libs : Libraries} (json : libs.MakesValid) {event : DLQEvent} {payload : Bytes}
    (written : event.marshal libs = .ok payload) : unmarshal libs payload = .ok event.toValid := by
  obtain ⟨payload',marshalled,read⟩ := json event.object
  cases marshalled.symm.trans written
  unfold unmarshal
  rw [read,toValidObject_object]
  exact ofObject_object event.toValid

end DLQEvent

/-- Every acknowledged dead-letter record of `record` gives the record back. -/
def Replayable (con : Consumer) (libs : Libraries) (record : Record) : Prop :=
  ∀ failureErr attempts events, Trace (con.publishToDLQ record failureErr attempts).run events (some none) →
    ∃ produced event, (⟨.produceSync produced,none⟩ : Event) ∈ events ∧ produced.topic = con.dlqTopic ∧
      produced.key = record.key ∧ DLQEvent.unmarshal libs produced.value = .ok event ∧ event.payload = record.value ∧
      event.originalTopic = record.topic ∧ event.originalPartition = record.partition ∧ event.originalOffset =
        record.offset

theorem Published.trace {con : Consumer} {record : Record} {err : Error} {attempts : Int64} {events : List Event}
    (published : Published con record err attempts events) :
    Trace (con.publishToDLQ record err attempts).run events (some none) := by
  cases published with
  | acknowledged failedAt payload marshalled =>
    refine Trace.asked _ ?_
    rw [marshalled]
    exact Trace.asked _ (.done _)

section replay
variable {con : Consumer} {libs : Libraries} (json : libs.MakesValid) (linked : con.marshal = DLQEvent.marshal libs)
include json linked

/-- The one record that a successful call produces. -/
theorem published_record {record : Record} {failureErr : Error} {attempts : Int64} {events : List Event}
    (trace : Trace (con.publishToDLQ record failureErr attempts).run events (some none)) :
    ∃ failedAt payload, events = [⟨.now,failedAt⟩,⟨.produceSync ⟨con.dlqTopic,record.key,payload⟩,none⟩] ∧
      DLQEvent.unmarshal libs payload = .ok (con.dlqEvent record failureErr attempts failedAt).toValid := by
  rcases publishToDLQ_trace con record failureErr attempts events _ trace with ⟨-,published⟩ | ⟨err,failed,-⟩
  · cases published with
    | acknowledged failedAt payload marshalled =>
      rw [linked] at marshalled
      exact ⟨failedAt,payload,rfl,DLQEvent.unmarshal_marshal json marshalled⟩
  · cases failed

theorem publish_possible (record : Record) (failureErr : Error) (attempts : Int64) (failedAt : Time) :
    ∃ events, Trace (con.publishToDLQ record failureErr attempts).run events (some none) := by
  obtain ⟨payload,written,-⟩ := json (con.dlqEvent record failureErr attempts failedAt).object
  have marshalled : con.marshal (con.dlqEvent record failureErr attempts failedAt) = .ok payload := by
    rw [linked]
    exact written
  exact ⟨_,(Published.acknowledged failedAt payload marshalled).trace⟩

theorem produced_value {record : Record} {failureErr : Error} {attempts : Int64} {events : List Event}
    {produced : ProducedRecord} (trace : Trace (con.publishToDLQ record failureErr attempts).run events (some none))
    (member : (⟨.produceSync produced,none⟩ : Event) ∈ events) : produced.topic = con.dlqTopic ∧
      produced.key = record.key ∧
      ∃ failedAt, DLQEvent.unmarshal libs produced.value =
      .ok (con.dlqEvent record failureErr attempts failedAt).toValid := by
  obtain ⟨failedAt,payload,rfl,read⟩ := published_record json linked trace
  rcases List.mem_cons.mp member with same | later
  · cases same
  · cases List.mem_singleton.mp later
    exact ⟨rfl,rfl,failedAt,read⟩

theorem replayable_valid {record : Record} (replayable : Replayable con libs record) :
    ValidUTF8 record.value ∧ ValidUTF8 record.topic := by
  obtain ⟨events,trace⟩ := publish_possible json linked record (.new "decode failed") 1 ⟨0,0⟩
  obtain ⟨produced,event,member,-,-,read,payload,topic,-⟩ := replayable _ _ _ trace
  obtain ⟨-,-,failedAt,read'⟩ := produced_value json linked trace member
  cases read.symm.trans read'
  exact ⟨(toValidUTF8_eq_self _).mp payload,(toValidUTF8_eq_self _).mp topic⟩

/-- Exactly the records whose payload and topic are valid UTF-8 are given back; such payloads stay distinct. -/
theorem dlq_replayable_iff :
    (∀ record, Replayable con libs record ↔ ValidUTF8 record.value ∧ ValidUTF8 record.topic) ∧
    ∀ (record other : Record) (failureErr failureErr' : Error) (attempts attempts' : Int64)
      (events events' : List Event) (produced produced' : ProducedRecord),
      Trace (con.publishToDLQ record failureErr attempts).run events (some none) →
      Trace (con.publishToDLQ other failureErr' attempts').run events' (some none) →
      (⟨.produceSync produced,none⟩ : Event) ∈ events → (⟨.produceSync produced',none⟩ : Event) ∈ events' →
      ValidUTF8 record.value → ValidUTF8 other.value → produced.value = produced'.value →
      record.value = other.value := by
  refine ⟨fun record => ⟨replayable_valid json linked,?_⟩,?_⟩
  · rintro ⟨value,topic⟩ failureErr attempts events trace
    obtain ⟨failedAt,payload,rfl,read⟩ := published_record json linked trace
    exact ⟨_,_,List.mem_cons_of_mem _ List.mem_cons_self,rfl,rfl,read,(toValidUTF8_eq_self _).mpr value,
      (toValidUTF8_eq_self _).mpr topic,rfl,rfl⟩
  · intro record other failureErr failureErr' attempts attempts' events events' produced produced' trace trace'
      member member'
      valid valid' same
    obtain ⟨-,-,failedAt,read⟩ := produced_value json linked trace member
    obtain ⟨-,-,failedAt',read'⟩ := produced_value json linked trace' member'
    rw [same] at read
    have events := Except.ok.inj (read.symm.trans read')
    have payloads : toValidUTF8 record.value = toValidUTF8 other.value := congrArg DLQEvent.payload events
    rwa [(toValidUTF8_eq_self _).mpr valid,(toValidUTF8_eq_self _).mpr valid'] at payloads

end replay

def dlqConsumer : Consumer where
  dlqTopic := text "transaction-events-dlq"
  maxRetries := 3
  maxPollRecords := 0
  metrics := false
  decode := decodeTransaction standard
  marshal := DLQEvent.marshal standard
  errorText := fun _ => text "decode transaction event: unmarshal payload: invalid character"
  formatTime := formatRFC3339Nano

def failedRecord (value : Bytes) : Record := ⟨text "transaction-events",2,41,text "acme:BTC-USD",value⟩

/-- A payload of characters beyond ASCII and of characters that JSON escapes. -/
theorem text_replayable :
    let record := failedRecord (text "<caf\u00e9 \u2028 \"\\\t>")
    Replayable dlqConsumer standard record ∧
      ∃ events, Trace (dlqConsumer.publishToDLQ record (.new "decode failed") 1).run events (some none) := by
  intro record
  refine ⟨((dlq_replayable_iff standard_makesValid rfl).1 record).mpr ?_,
    publish_possible standard_makesValid rfl record _ 1 ⟨0,0⟩⟩
  exact ⟨by decide +kernel,by decide +kernel⟩

/-- Two undecodable payloads for which the consumer makes the same calls: their last byte is replaced. -/
theorem invalid_bytes_lost : ∃ failureErr events,
    dlqConsumer.decode [0x78,0xFF] = .error failureErr ∧ dlqConsumer.decode [0x78,0xFE] = .error failureErr ∧
      Trace (dlqConsumer.publishToDLQ (failedRecord [0x78,0xFF]) failureErr 1).run events (some none) ∧
      Trace (dlqConsumer.publishToDLQ (failedRecord [0x78,0xFE]) failureErr 1).run events (some none) ∧
      ¬Replayable dlqConsumer standard (failedRecord [0x78,0xFF]) := by
  have same : (dlqConsumer.dlqEvent (failedRecord [0x78,0xFF]) (.new "") 1 ⟨0,0⟩).marshal standard =
      (dlqConsumer.dlqEvent (failedRecord [0x78,0xFE]) (.new "") 1 ⟨0,0⟩).marshal standard := by decide +kernel
  refine ⟨_,_,rfl,rfl,(Published.acknowledged ⟨0,0⟩ _ rfl).trace,(Published.acknowledged ⟨0,0⟩ _ same.symm).trace,?_⟩
  intro replayable
  have valid := (replayable_valid standard_makesValid rfl replayable).1
  revert valid
  decide +kernel

end ControlPlane.Processor.Kafka
