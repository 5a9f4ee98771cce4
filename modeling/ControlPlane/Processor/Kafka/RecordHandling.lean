import ControlPlane.Processor.Kafka.Consumer

/-! What the consumer does with one record, as the calls it makes and the replies it gets:
the attempts of `reconcileWithRetry`, the calls of `publishToDLQ` and the two ends a record
can come to, reconciled or acknowledged by the dead-letter topic. -/
namespace ControlPlane.Processor.Kafka
open Go Ledger Effect Effect.Program

abbrev Event := (op : ConsumerCall) × op.Reply

/-- Attempts that failed, each followed by a look at the context that found it alive. -/
def failures (txn : Transaction) (errors : List Error) : List Event :=
  errors.flatMap fun err => [⟨.reconcile txn,Except.error err⟩,⟨.ctxErr,none⟩]

/-- The calls of `reconcileWithRetry` and what it returns, when it may try `limit` times. -/
inductive Tried (txn : Transaction) (limit : Nat) : List Event → Int64 × Option Error → Prop
  | reconciled (errors : List Error) (within : errors.length < limit) :
      Tried txn limit (failures txn errors ++ [⟨.reconcile txn,Except.ok ()⟩]) (Int64.ofNat (errors.length+1),none)
  | interrupted (errors : List Error) (err cause : Error) (within : errors.length < limit) :
      Tried txn limit (failures txn errors ++ [⟨.reconcile txn,Except.error err⟩,⟨.ctxErr,some cause⟩])
        (Int64.ofNat (errors.length+1),some err)
  | exhausted (errors : List Error) (err : Error) (all : errors.length+1 = limit) :
      Tried txn limit (failures txn (errors ++ [err])) (Int64.ofNat limit,some err)

/-- One acknowledged dead-letter record, with the key of the record it stands for and its
topic, partition and offset in the payload. -/
inductive Published (con : Consumer) (record : Record) (err : Error) (attempts : Int64) : List Event → Prop
  | acknowledged (failedAt : Time) (payload : Bytes)
      (marshalled : con.marshal (con.dlqEvent record err attempts failedAt) = .ok payload) :
      Published con record err attempts
        [⟨.now,failedAt⟩,⟨.produceSync ⟨con.dlqTopic,record.key,payload⟩,none⟩]

inductive FailedPublish : List Event → Prop
  | rejected (failedAt : Time) (record : ProducedRecord) (cause : Error) :
      FailedPublish [⟨.now,failedAt⟩,⟨.produceSync record,some cause⟩]
  | unmarshalled (failedAt : Time) : FailedPublish [⟨.now,failedAt⟩]

namespace Consumer

/-- `maxRetries+1`. -/
def attemptLimit (con : Consumer) : Nat := con.maxRetries.toInt.toNat+1

end Consumer

inductive Handled (con : Consumer) (record : Record) : List Event → Prop
  | reconciled (txn : Transaction) (decoded : con.decode record.value = .ok txn) (events : List Event)
      (attempts : Int64) (tried : Tried txn con.attemptLimit events (attempts,none)) : Handled con record events
  | undecodable (err : Error) (decoded : con.decode record.value = .error err) (events : List Event)
      (published : Published con record err 1 events) : Handled con record events
  | failed (txn : Transaction) (decoded : con.decode record.value = .ok txn) (attempts : Int64) (err : Error)
      (tries events : List Event) (tried : Tried txn con.attemptLimit tries (attempts,some err))
      (published : Published con record err attempts events) : Handled con record (tries ++ events)

section retries
variable {con : Consumer} {txn : Transaction}

/-- One round of the retry loop: the calls it makes and how the loop goes on. -/
inductive Round (con : Consumer) (txn : Transaction) (attempt : Int64) (lastErr : Option Error) :
    List Event → (Int64 × Option Error) ⊕ (Int64 × Option Error) → Prop
  | reconciled (within : attempt ≤ con.maxRetries+1) :
      Round con txn attempt lastErr [⟨.reconcile txn,Except.ok ()⟩] (.inr (attempt,none))
  | interrupted (within : attempt ≤ con.maxRetries+1) (err cause : Error) :
      Round con txn attempt lastErr [⟨.reconcile txn,Except.error err⟩,⟨.ctxErr,some cause⟩] (.inr (attempt,some err))
  | again (within : attempt ≤ con.maxRetries+1) (err : Error) :
      Round con txn attempt lastErr [⟨.reconcile txn,Except.error err⟩,⟨.ctxErr,none⟩] (.inl (attempt+1,some err))
  | exhausted (beyond : ¬attempt ≤ con.maxRetries+1) :
      Round con txn attempt lastErr [] (.inr (con.maxRetries+1,lastErr))

theorem retryRound_trace (attempt : Int64) (lastErr : Option Error) (events : List Event)
    (result : Option ((Int64 × Option Error) ⊕ (Int64 × Option Error)))
    (trace : Trace (con.retryRound txn (attempt,lastErr)).run events result) :
    ∃ outcome, result = some outcome ∧ Round con txn attempt lastErr events outcome := by
  by_cases within : attempt ≤ con.maxRetries+1
  · rw [Consumer.retryRound,if_pos within] at trace
    obtain ⟨reply,rest,rfl,answered⟩ := Trace.unrolled_ask _ _ _ _ trace
    cases reply with
    | ok value =>
      cases answered
      exact ⟨_,rfl,.reconciled within⟩
    | error err =>
      obtain ⟨alive,rest,rfl,looked⟩ := Trace.unrolled_ask _ _ _ _ answered
      cases alive with
      | some cause =>
        cases looked
        exact ⟨_,rfl,.interrupted within err cause⟩
      | none =>
        cases looked
        exact ⟨_,rfl,.again within err⟩
  · rw [Consumer.retryRound,if_neg within] at trace
    cases trace
    exact ⟨_,rfl,.exhausted within⟩

theorem failures_append (errors more : List Error) :
    failures txn (errors ++ more) = failures txn errors ++ failures txn more := List.flatMap_append

theorem attemptLimit_value (nonnegative : 0 ≤ con.maxRetries.toInt) (bounded : con.maxRetries.toInt+1 < maxInt) :
    con.maxRetries+1 = Int64.ofNat con.attemptLimit := by
  rw [← Int64.toInt_inj,add64,Int64.toInt_ofNat_of_lt]
  all_goals simp only [FitsInt64,Consumer.attemptLimit,maxInt,Int64.toInt_one] at *
  all_goals omega

theorem within_iff (nonnegative : 0 ≤ con.maxRetries.toInt) (bounded : con.maxRetries.toInt+1 < maxInt)
    (tries : Nat) (few : tries ≤ con.attemptLimit) :
    Int64.ofNat (tries+1) ≤ con.maxRetries+1 ↔ tries < con.attemptLimit := by
  have small : con.attemptLimit+1 < 2^63 := by
    simp only [Consumer.attemptLimit,maxInt] at *
    omega
  rw [attemptLimit_value nonnegative bounded,Int64.le_iff_toInt_le,Int64.toInt_ofNat_of_lt (by omega),
    Int64.toInt_ofNat_of_lt (by omega)]
  omega

/-- The retry loop after some failed attempts: it ends as the source says, or the rounds
it was given run out while attempts are left. -/
theorem retries_trace (nonnegative : 0 ≤ con.maxRetries.toInt) (bounded : con.maxRetries.toInt+1 < maxInt)
    (fuel : Nat) (errors : List Error) (few : errors.length ≤ con.attemptLimit) (events : List Event)
    (result : Option (Int64 × Option Error))
    (trace : Trace (loop (con.retryRound txn) fuel (Int64.ofNat (errors.length+1),errors.getLast?)).run events result) :
    (∃ outcome, result = some outcome ∧ Tried txn con.attemptLimit (failures txn errors ++ events) outcome) ∨
      (result = none ∧ ∃ more, events = failures txn more ∧ fuel+errors.length ≤ con.attemptLimit) := by
  induction fuel generalizing errors events with
  | zero =>
    cases trace
    exact Or.inr ⟨rfl,[],rfl,by omega⟩
  | succ fuel ih =>
    have counted := within_iff nonnegative bounded errors.length few
    rcases Trace.unrolled_bind _ _ _ _ trace with ⟨_,body⟩ | ⟨before,after,outcome,rfl,body,rest⟩
    · obtain ⟨outcome,impossible,_⟩ := retryRound_trace _ _ _ _ body
      cases impossible
    obtain ⟨_,same,round⟩ := retryRound_trace _ _ _ _ body
    cases same
    cases round with
    | reconciled within =>
      cases rest
      exact Or.inl ⟨_,rfl,.reconciled errors (counted.mp within)⟩
    | interrupted within err cause =>
      cases rest
      exact Or.inl ⟨_,rfl,.interrupted errors err cause (counted.mp within)⟩
    | again within err =>
      have longer : (errors ++ [err]).length = errors.length+1 := by simp
      have next : Int64.ofNat (errors.length+1)+1 = Int64.ofNat ((errors ++ [err]).length+1) := by
        rw [longer,Int64.ofNat_add (errors.length+1)]
        rfl
      have last : some err = (errors ++ [err]).getLast? := by simp
      change Trace (loop (con.retryRound txn) fuel (Int64.ofNat (errors.length+1)+1,some err)).run after result at rest
      rw [next,last] at rest
      rcases ih (errors ++ [err]) (longer ▸ counted.mp within) after rest with ⟨outcome,rfl,tried⟩ |
        ⟨rfl,more,rfl,short⟩
      · rw [failures_append,List.append_assoc] at tried
        exact Or.inl ⟨outcome,rfl,tried⟩
      · exact Or.inr ⟨rfl,err::more,rfl,by omega⟩
    | exhausted beyond =>
      cases rest
      have all : errors.length = con.attemptLimit :=
        Nat.le_antisymm few (Nat.not_lt.mp fun less => beyond (counted.mpr less))
      rcases errors.eq_nil_or_concat with rfl | ⟨earlier,err,rfl⟩
      · simp [Consumer.attemptLimit] at all
      refine Or.inl ⟨_,rfl,?_⟩
      simp only [List.concat_eq_append] at all ⊢
      simp only [attemptLimit_value nonnegative bounded,List.append_nil,List.getLast?_concat]
      exact .exhausted earlier err (by simpa using all)

theorem reconcileWithRetry_trace (nonnegative : 0 ≤ con.maxRetries.toInt)
    (bounded : con.maxRetries.toInt+1 < maxInt) (fuel : Nat) (events : List Event)
    (result : Option (Int64 × Option Error)) (trace : Trace (con.reconcileWithRetry fuel txn).run events result) :
    (∃ outcome, result = some outcome ∧ Tried txn con.attemptLimit events outcome) ∨
      (result = none ∧ ∃ errors, events = failures txn errors ∧ fuel ≤ con.attemptLimit) :=
  retries_trace nonnegative bounded fuel [] (Nat.zero_le _) events result trace

end retries

theorem publishToDLQ_trace (con : Consumer) (record : Record) (failureErr : Error) (attempts : Int64)
    (events : List Event) (result : Option (Option Error))
    (trace : Trace (con.publishToDLQ record failureErr attempts).run events result) :
    (result = some none ∧ Published con record failureErr attempts events) ∨
      ∃ err, result = some (some err) ∧ FailedPublish events := by
  obtain ⟨failedAt,rest,rfl,read⟩ := Trace.unrolled_ask _ _ _ _ trace
  cases marshalled : con.marshal (con.dlqEvent record failureErr attempts failedAt) with
  | error err =>
    rw [marshalled] at read
    cases read
    exact Or.inr ⟨_,rfl,.unmarshalled failedAt⟩
  | ok payload =>
    rw [marshalled] at read
    obtain ⟨answer,rest,rfl,produced⟩ := Trace.unrolled_ask _ _ _ _ read
    cases answer with
    | some cause =>
      cases produced
      exact Or.inr ⟨_,rfl,.rejected failedAt _ cause⟩
    | none =>
      cases produced
      exact Or.inl ⟨rfl,.acknowledged failedAt payload marshalled⟩

namespace ConsumerCall

def Gauge : ConsumerCall → Prop
  | .observeLag _ _ | .observeActiveConsumers _ => True
  | _ => False

/-- Neither a poll nor a call of `publishToDLQ`. -/
def Calm : ConsumerCall → Prop
  | .pollRecords _ | .now | .produceSync _ => False
  | _ => True

theorem Gauge.calm {call : ConsumerCall} (gauge : call.Gauge) : call.Calm := by
  cases call <;> trivial

end ConsumerCall

/-- Calls among which there is no poll and every dead-letter record is acknowledged. -/
inductive Clean : List Event → Prop
  | nil : Clean []
  | step {event : Event} {rest : List Event} (calm : event.1.Calm) (clean : Clean rest) : Clean (event::rest)
  | publish {failedAt : Time} {record : ProducedRecord} {rest : List Event} (clean : Clean rest) :
      Clean (⟨.now,failedAt⟩::⟨.produceSync record,none⟩::rest)

theorem Clean.append {events more : List Event} (clean : Clean events) (after : Clean more) :
    Clean (events ++ more) := by
  induction clean with
  | nil => exact after
  | step calm _ ih => exact .step calm ih
  | publish _ ih => exact .publish ih

theorem failures_clean (txn : Transaction) (errors : List Error) : Clean (failures txn errors) := by
  induction errors with
  | nil => exact .nil
  | cons err errors ih => exact .step trivial (.step trivial ih)

theorem Tried.clean {txn : Transaction} {limit : Nat} {events : List Event} {outcome : Int64 × Option Error}
    (tried : Tried txn limit events outcome) : Clean events := by
  cases tried with
  | reconciled errors _ => exact (failures_clean txn errors).append (.step trivial .nil)
  | interrupted errors err cause _ => exact (failures_clean txn errors).append (.step trivial (.step trivial .nil))
  | exhausted errors err _ => exact failures_clean txn _

theorem Published.clean {con : Consumer} {record : Record} {err : Error} {attempts : Int64} {events : List Event}
    (published : Published con record err attempts events) : Clean events := by
  cases published with
  | acknowledged => exact .publish .nil

theorem Handled.clean {con : Consumer} {record : Record} {events : List Event}
    (handled : Handled con record events) : Clean events := by
  cases handled with
  | reconciled txn _ _ attempts tried => exact tried.clean
  | undecodable err _ _ published => exact published.clean
  | failed txn _ attempts err _ _ tried published => exact tried.clean.append published.clean

/-- Every record handled, one after the other, with reports to the gauges in between. -/
inductive Handles (con : Consumer) : List Record → List Event → Prop
  | nil : Handles con [] []
  | record {record : Record} {records : List Record} {events rest : List Event}
      (head : Handled con record events) (tail : Handles con records rest) :
      Handles con (record::records) (events ++ rest)
  | report {event : Event} {records : List Record} {rest : List Event} (gauge : event.1.Gauge)
      (tail : Handles con records rest) : Handles con records (event::rest)

theorem Handles.append {con : Consumer} {records others : List Record} {events more : List Event}
    (handles : Handles con records events) (after : Handles con others more) :
    Handles con (records ++ others) (events ++ more) := by
  induction handles with
  | nil => exact after
  | record head _ ih =>
    rw [List.append_assoc]
    exact .record head ih
  | report gauge _ ih => exact .report gauge ih

theorem Handles.clean {con : Consumer} {records : List Record} {events : List Event}
    (handles : Handles con records events) : Clean events := by
  induction handles with
  | nil => exact .nil
  | record head _ ih => exact head.clean.append ih
  | report gauge _ ih => exact .step gauge.calm ih

/-- How the work on some records can end, with the value of `dlqErr` it leaves; it is cut
short only where the retry loop is given fewer rounds than it has attempts. -/
inductive Outcome (con : Consumer) (fuel : Nat) (records : List Record) :
    List Event → Option (Option Error) → Prop
  | handled {events : List Event} (all : Handles con records events) : Outcome con fuel records events (some none)
  | stopped {done failed reports : List Event} (clean : Clean done) (failing : FailedPublish failed)
      (gauges : ∀ event ∈ reports, event.1.Gauge) (err : Error) :
      Outcome con fuel records (done ++ (failed ++ reports)) (some (some err))
  | cut {events : List Event} (clean : Clean events) (short : fuel ≤ con.attemptLimit) :
      Outcome con fuel records events none

theorem Outcome.after {con : Consumer} {fuel : Nat} {records others : List Record} {events more : List Event}
    {dlqErr : Option (Option Error)} (handles : Handles con records events)
    (outcome : Outcome con fuel others more dlqErr) :
    Outcome con fuel (records ++ others) (events ++ more) dlqErr := by
  cases outcome with
  | handled all => exact .handled (handles.append all)
  | stopped clean failing gauges err =>
    rw [← List.append_assoc]
    exact .stopped (handles.clean.append clean) failing gauges err
  | cut clean short => exact .cut (handles.clean.append clean) short

/-- Both callbacks' way to the dead-letter topic: a failed publication sets `dlqErr`. -/
theorem routed_outcome {con : Consumer} {fuel : Nat} {batch : BatchState} {record : Record} {failureErr : Error}
    {attempts : Int64} (text : Error → Error) (tries : List Event) (clean : Clean tries)
    (handled : ∀ events, Published con record failureErr attempts events → Handled con record (tries ++ events))
    (events : List Event) (result : Option BatchState)
    (trace : Trace (con.publishToDLQ record failureErr attempts >>= fun answer =>
      match answer with
      | some err => pure {batch with dlqErr := some (text err)}
      | none => pure batch).run events result) (alive : batch.dlqErr = none) :
    Outcome con fuel [record] (tries ++ events) (result.map (·.dlqErr)) := by
  rcases Trace.unrolled_bind _ _ _ _ trace with ⟨_,cut⟩ | ⟨before,after,answer,rfl,published,rest⟩
  · rcases publishToDLQ_trace _ _ _ _ _ _ cut with ⟨impossible,_⟩ | ⟨_,impossible,_⟩
    all_goals cases impossible
  rcases publishToDLQ_trace _ _ _ _ _ _ published with ⟨same,acknowledged⟩ | ⟨err,same,failed⟩
  · cases same
    cases rest
    rw [Option.map_some,alive,List.append_nil]
    rw [← List.append_nil (tries ++ before)]
    exact .handled (.record (handled before acknowledged) .nil)
  · cases same
    cases rest
    exact .stopped clean failed (by simp) (text err)

theorem eachRecord_outcome {con : Consumer} (nonnegative : 0 ≤ con.maxRetries.toInt)
    (bounded : ∀ value txn, con.decode value = .ok txn → con.maxRetries.toInt+1 < maxInt) (fuel : Nat)
    (batch : BatchState) (record : Record) (alive : batch.dlqErr = none) (events : List Event)
    (result : Option BatchState) (trace : Trace (con.eachRecord fuel batch record).run events result) :
    Outcome con fuel [record] events (result.map (·.dlqErr)) := by
  rw [Consumer.eachRecord,if_neg (by simp [alive])] at trace
  cases decoded : con.decode record.value with
  | error err =>
    rw [decoded] at trace
    exact routed_outcome _ [] .nil (fun events published => .undecodable err decoded events published) events result
      trace alive
  | ok txn =>
    rw [decoded] at trace
    have retried := @reconcileWithRetry_trace con txn nonnegative (bounded _ _ decoded) fuel
    rcases Trace.unrolled_bind _ _ _ _ trace with ⟨rfl,cut⟩ | ⟨before,after,outcome,rfl,tries,rest⟩
    · rcases retried _ _ cut with ⟨_,impossible,_⟩ | ⟨_,errors,rfl,short⟩
      · cases impossible
      · exact .cut (failures_clean txn errors) short
    rcases retried _ _ tries with ⟨_,same,tried⟩ | ⟨impossible,_⟩
    · cases same
      rcases outcome with ⟨attempts,_ | err⟩
      · cases rest
        rw [Option.map_some,alive]
        exact .handled (.record (.reconciled txn decoded before attempts tried) .nil)
      · exact routed_outcome _ before tried.clean
          (fun events published => .failed txn decoded attempts err before events tried published) after
            result rest alive
    · cases impossible

end ControlPlane.Processor.Kafka
