import ControlPlane.Ledger.GuardedCalls
import ControlPlane.Processor.Deployment
import ControlPlane.Processor.Kafka.PollAccounting

/-! The consumer over the reconciler and its guarded repositories while Postgres is down. The
breakers bound the calls that reach it; while the breaker of the transactions is open, whatever
`Run` polls ends on the dead-letter topic without a repository call. -/
namespace ControlPlane.Processor.Kafka
open Go Ledger Corebreaker Effect Effect.Program

structure Service where
  backend : Backend
  dlq : List ProducedRecord

/-- The calls that touch neither the repositories nor the dead-letter topic. -/
def ConsumerCall.Apart : ConsumerCall → Prop
  | .reconcile _ | .produceSync _ => False
  | _ => True

variable {answers : Environment Database RepositoryCall.Reply} {s t : Service} {events : List Event} {con : Consumer}

def connectionRefused : Error := .new "connection refused"

/-- What Postgres answers while it is up or down. -/
def postgres (up : Bool) (db : Database) (op : RepositoryCall) : op.Reply × Database :=
  if up then op.execute db else (op.fail connectionRefused,db)

def down : Environment Database RepositoryCall.Reply := fun db op reply after => (reply,after) = postgres false db op

/-- The calls of a guarded program, all at one instant. -/
def guardedAt (up : Bool) (now : Int) (s : Backend) :
    (op : RepositoryCall ⊕ BreakerOp) → Extended RepositoryCall.Reply BreakerOp.Reply op × Backend
  | .inl op => ((postgres up s.db op).1,{s.count op.breaker with db := (postgres up s.db op).2})
  | .inr (.allow breaker) => (((s.breakers breaker).allow (max s.clock now)).1,
      s.setBreaker breaker ((s.breakers breaker).allow (max s.clock now)).2 (max s.clock now))
  | .inr (.record breaker err) => ((),
      s.setBreaker breaker ((s.breakers breaker).record err (max s.clock now)) (max s.clock now))

def sampleBuy : Transaction := sampleTrade "tenant-a" 7 sideBuy 100 1000

/-- One attempt at a trade. -/
def attempt (s : Service) (up : Bool) (now : Int) : Service :=
  {s with backend := ((guardedReconcile sampleBuy).execute (guardedAt up now) s.backend).2}

section opened
variable {limit : Int}

/-- What `Reconcile` returns for a refused insert. -/
def refusedInsert : Error := .wrap "reconcile: insert transaction: %w" [] errCircuitOpen

/-- What the service has not touched since `s`. -/
structure Untouched (s t : Service) : Prop where
  db : t.backend.db = s.backend.db
  calls : t.backend.calls = s.backend.calls
  breakers : t.backend.breakers = s.backend.breakers

/-- The records that the dead-letter topic acknowledged. -/
def acknowledgedBy : List Event → List ProducedRecord :=
  List.filterMap fun event => match event with
    | ⟨.produceSync record,none⟩ => some record
    | _ => none

/-- The records that the polls returned. -/
def polledBy : List Event → List Record :=
  List.flatMap fun event => match event with
    | ⟨.pollRecords _,fetches⟩ => Fetches.records fetches
    | _ => []

/-- No dead-letter record that the broker did not acknowledge. -/
def Event.Sent : Event → Prop
  | ⟨.produceSync _,some _⟩ => False
  | _ => True

/-- The dead-letter record of a record: its key, and a payload that names the record, holds its
bytes and, unless they could not be decoded, says that the breaker was open. -/
def DeadLetter (con : Consumer) (record : Record) (letter : ProducedRecord) : Prop :=
  letter.topic = con.dlqTopic ∧ letter.key = record.key ∧ ∃ err attempts failedAt,
    con.marshal (con.dlqEvent record err attempts failedAt) = .ok letter.value ∧
      (con.decode record.value = .error err ∨ (∃ txn, con.decode record.value = .ok txn) ∧ err = refusedInsert)

theorem acknowledgedBy_append (events more : List Event) :
    acknowledgedBy (events ++ more) = acknowledgedBy events ++ acknowledgedBy more := List.filterMap_append

theorem polledBy_append (events more : List Event) : polledBy (events ++ more) = polledBy events ++ polledBy more :=
  List.flatMap_append

theorem acknowledgedBy_failures (txn : Transaction) (errors : List Error) :
    acknowledgedBy (failures txn errors) = [] := by
  induction errors with
  | nil => rfl
  | cons err errors ih => exact ih

/-- No repository took the transaction of an attempt. -/
def AllRefused (events : List Event) : Prop :=
  ∀ txn result, ⟨.reconcile txn,result⟩ ∈ events → result = .error refusedInsert

theorem AllRefused.left {events more : List Event} (refused : AllRefused (events ++ more)) : AllRefused events :=
  fun txn result member => refused txn result (List.mem_append_left _ member)

theorem AllRefused.right {events more : List Event} (refused : AllRefused (events ++ more)) : AllRefused more :=
  fun txn result member => refused txn result (List.mem_append_right _ member)

theorem Tried.refused {txn : Transaction} {limit : Nat} {attempts : Int64} {outcome : Option Error}
    (tried : Tried txn limit events (attempts,outcome)) (refused : AllRefused events) :
    outcome = some refusedInsert ∧ acknowledgedBy events = [] := by
  cases tried with
  | reconciled errors => cases refused txn (.ok ()) (by simp)
  | interrupted errors err cause =>
    have last := Except.error.inj (refused txn (.error err) (by simp))
    refine ⟨congrArg some last,?_⟩
    rw [acknowledgedBy_append,acknowledgedBy_failures]
    rfl
  | exhausted errors err =>
    have last := Except.error.inj (refused txn (.error err) (by simp [failures]))
    exact ⟨congrArg some last,acknowledgedBy_failures txn _⟩

theorem Published.letter {record : Record} {err : Error} {attempts : Int64}
    (published : Published con record err attempts events)
    (cause : con.decode record.value = .error err ∨ (∃ txn, con.decode record.value = .ok txn) ∧ err = refusedInsert) :
    ∃ letter, acknowledgedBy events = [letter] ∧ DeadLetter con record letter := by
  cases published with
  | acknowledged failedAt payload marshalled =>
    exact ⟨_,rfl,rfl,rfl,err,attempts,failedAt,marshalled,cause⟩

theorem Handled.letter {record : Record} (handled : Handled con record events) (refused : AllRefused events) :
    ∃ letter, acknowledgedBy events = [letter] ∧ DeadLetter con record letter := by
  cases handled with
  | reconciled txn decoded _ attempts tried => cases (tried.refused refused).1
  | undecodable err decoded _ published => exact published.letter (Or.inl decoded)
  | failed txn decoded attempts err tries events tried published =>
    obtain ⟨same,unsent⟩ := tried.refused refused.left
    cases same
    rw [acknowledgedBy_append,unsent]
    exact published.letter (Or.inr ⟨⟨txn,decoded⟩,rfl⟩)

theorem Handles.letters {records : List Record} (handles : Handles con records events) (refused : AllRefused events) :
    List.Forall₂ (DeadLetter con) records (acknowledgedBy events) := by
  induction handles with
  | nil => exact .nil
  | record head _ ih =>
    obtain ⟨letter,sent,dead⟩ := head.letter refused.left
    rw [acknowledgedBy_append,sent]
    exact .cons dead (ih refused.right)
  | @report event records rest gauge _ ih =>
    have others := ih fun txn result member => refused txn result (List.mem_cons_of_mem _ member)
    rcases event with ⟨op,reply⟩
    cases op with
    | observeLag => exact others
    | observeActiveConsumers => exact others
    | _ => exact gauge.elim

theorem Clean.unpolled (clean : Clean events) : polledBy events = [] ∧ ∀ event ∈ events, event.Sent := by
  induction clean with
  | nil => exact ⟨rfl,by simp⟩
  | @step event rest calm _ ih =>
    rcases event with ⟨op,reply⟩
    cases op with
    | pollRecords => exact calm.elim
    | now => exact calm.elim
    | produceSync => exact calm.elim
    | _ => exact ⟨ih.1,List.forall_mem_cons.mpr ⟨trivial,ih.2⟩⟩
  | publish _ ih => exact ⟨ih.1,List.forall_mem_cons.mpr ⟨trivial,List.forall_mem_cons.mpr ⟨trivial,ih.2⟩⟩⟩

/-- The calls that handle the records of a poll do not poll. -/
theorem Handles.polledBy_round {fetches : Fetches} {events later : List Event}
    (all : Handles con fetches.records events) :
    polledBy (⟨.pollRecords con.maxPollRecords,fetches⟩::⟨.ctxErr,none⟩::(events ++ later)) =
      fetches.records ++ polledBy later := by
  change fetches.records ++ polledBy (events ++ later) = _
  rw [polledBy_append,all.clean.unpolled.1,List.nil_append]

theorem Rounds.letters (rounds : Rounds con events) (refused : AllRefused events) :
    List.Forall₂ (DeadLetter con) (polledBy events) (acknowledgedBy events) ∧ ∀ event ∈ events, event.Sent := by
  induction rounds with
  | nil => exact ⟨.nil,by simp⟩
  | @round fetches events later sound all _ ih =>
    have inner : AllRefused (events ++ later) := fun txn result member => refused txn result (by simp [member])
    obtain ⟨dead,sent⟩ := ih inner.right
    have letters : acknowledgedBy (⟨.pollRecords con.maxPollRecords,fetches⟩::⟨.ctxErr,none⟩::(events ++ later)) =
        acknowledgedBy events ++ acknowledgedBy later := acknowledgedBy_append events later
    refine ⟨?_,?_⟩
    · rw [all.polledBy_round,letters]
      exact List.rel_append (all.letters inner.left) dead
    · refine List.forall_mem_cons.mpr ⟨trivial,List.forall_mem_cons.mpr ⟨trivial,?_⟩⟩
      exact List.forall_mem_append.mpr ⟨all.clean.unpolled.2,sent⟩

end opened

end ControlPlane.Processor.Kafka
