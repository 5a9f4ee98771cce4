import ControlPlane.Processor.Kafka.DeadLetters
import ControlPlane.Processor.Kafka.Outage
import ControlPlane.Wire.Agreement
import ControlPlane.Wire.ValidText

/-! An accepted event on its way through the topic. The record that is published for it is
decoded to the same trade by every consumer, and a consumer that polls again has reconciled the
trade or has put the payload on the dead-letter topic, from where it is decoded to it again. -/
namespace ControlPlane.Processor.Kafka
open Go Ledger Wire Api Effect Effect.Program

/-- An event that one of the two handlers hands to its publisher. -/
inductive Accepted (libs : Libraries) : Ingestion.Event → Prop
  | rest {request : TransactionEventRequest} {event : Ingestion.Event} (valid : request.validate libs = .ok ())
      (converted : request.toIngestionEvent libs = .ok event) : Accepted libs event
  | grpc {source : TransactionEvent} {event : Ingestion.Event} (valid : validateTransactionEvent libs source = .ok ())
      (converted : transactionEventToIngestionEvent libs source = .ok event) : Accepted libs event

/-- An acknowledged dead-letter record that stands for `record`: under its key, with its place in
the topic and its payload, which is decoded to the trade. -/
structure Recoverable (con : Consumer) (libs : Libraries) (record : Record) (txn : Transaction)
    (letter : ProducedRecord) : Prop where
  topic : letter.topic = con.dlqTopic
  key : letter.key = record.key
  content : ∃ event, DLQEvent.unmarshal libs letter.value = .ok event ∧ event.payload = record.value ∧
    event.originalPartition = record.partition ∧ event.originalOffset = record.offset ∧
    1 ≤ event.attempts.toInt ∧ event.attempts.toInt ≤ con.maxRetries.toInt+1 ∧
    con.decode event.payload = .ok txn

/-- The calls reconcile the record's trade or dead-letter the record. -/
def Delivered (con : Consumer) (libs : Libraries) (record : Record) (txn : Transaction) (events : List Event) : Prop :=
  (⟨.reconcile txn,Except.ok ()⟩ : Event) ∈ events ∨ ∃ letter ∈ acknowledgedBy events, Recoverable con libs
    record txn letter

section delivery
variable {con : Consumer} {libs : Libraries} {record : Record} {txn : Transaction} {events more : List Event}

theorem Delivered.left (delivered : Delivered con libs record txn events) : Delivered con libs record txn
    (events ++ more) := by
  rcases delivered with reconciled | ⟨letter,member,recoverable⟩
  · exact Or.inl (List.mem_append_left _ reconciled)
  · refine Or.inr ⟨letter,?_,recoverable⟩
    simp [acknowledgedBy_append,member]

theorem Delivered.after (events : List Event) (delivered : Delivered con libs record txn more) :
    Delivered con libs record txn (events ++ more) := by
  rcases delivered with reconciled | ⟨letter,member,recoverable⟩
  · exact Or.inl (List.mem_append_right _ reconciled)
  · refine Or.inr ⟨letter,?_,recoverable⟩
    simp [acknowledgedBy_append,member]

theorem Tried.attempts_bounds {limit : Nat} {attempts : Int64} {result : Option Error} (small : limit < 2^63)
    (tried : Tried txn limit events (attempts,result)) : 1 ≤ attempts.toInt ∧ attempts.toInt ≤ limit := by
  cases tried with
  | reconciled errors within =>
    rw [Int64.toInt_ofNat_of_lt (by omega)]
    omega
  | interrupted errors err cause within =>
    rw [Int64.toInt_ofNat_of_lt (by omega)]
    omega
  | exhausted errors err all =>
    rw [Int64.toInt_ofNat_of_lt small]
    omega

variable (json : libs.MakesValid) (writes : con.marshal = DLQEvent.marshal libs)
  (nonnegative : 0 ≤ con.maxRetries.toInt)
  (bounded : con.maxRetries.toInt+1 < maxInt)
include json writes nonnegative bounded

theorem Handled.delivered (valid : ValidUTF8 record.value) (decoded : con.decode record.value = .ok txn)
    (handled : Handled con record events) : Delivered con libs record txn events := by
  have small : con.attemptLimit < 2^63 := by
    simp only [Consumer.attemptLimit,maxInt] at *
    omega
  cases handled with
  | reconciled txn' decoded' events attempts tried =>
    cases decoded.symm.trans decoded'
    cases tried with
    | reconciled errors within => exact Or.inl (by simp)
  | undecodable err undecoded => cases decoded.symm.trans undecoded
  | failed txn' decoded' attempts err tries events tried published =>
    have bounds := tried.attempts_bounds small
    apply Delivered.after
    obtain ⟨failedAt,payload,rfl,read⟩ := published_record json writes published.trace
    refine Or.inr ⟨⟨con.dlqTopic,record.key,payload⟩,by simp [acknowledgedBy],rfl,rfl,_,read,?_⟩
    have same := (toValidUTF8_eq_self _).mpr valid
    simp only [Consumer.attemptLimit] at bounds
    refine ⟨same,rfl,rfl,bounds.1,?_,?_⟩
    · change attempts.toInt ≤ _
      omega
    · change con.decode (toValidUTF8 record.value) = _
      rw [same,decoded]

theorem Handles.delivered {records : List Record} (handles : Handles con records events) (member : record ∈ records)
    (valid : ValidUTF8 record.value) (decoded : con.decode record.value = .ok txn) :
    Delivered con libs record txn events := by
  induction handles with
  | nil => simp at member
  | record head _ ih =>
    rcases List.mem_cons.mp member with rfl | later
    · exact (head.delivered json writes nonnegative bounded valid decoded).left
    · exact (ih later).after _
  | report gauge _ ih => exact (ih member).after [_]

theorem Rounds.delivered (rounds : Rounds con events) (member : record ∈ polledBy events)
    (valid : ValidUTF8 record.value) (decoded : con.decode record.value = .ok txn) :
    Delivered con libs record txn events := by
  induction rounds with
  | nil => simp [polledBy] at member
  | @round fetches events later sound all _ ih =>
    rw [all.polledBy_round] at member
    apply Delivered.after [_,_]
    rcases List.mem_append.mp member with here | there
    · exact (all.delivered json writes nonnegative bounded here valid decoded).left
    · exact (ih there).after events

end delivery

end ControlPlane.Processor.Kafka
