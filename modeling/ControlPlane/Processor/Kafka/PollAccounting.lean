import ControlPlane.Processor.Kafka.RecordHandling

/-! Accounting for polled records. Whenever `Run` polls again, every record of every earlier
poll has been handled in fetch order; once a dead-letter record is not acknowledged, `Run`
does no more work and returns. The retry loop keeps its bound unless the bound is the
largest integer, where its counter wraps. -/
namespace ControlPlane.Processor.Kafka
open Go Ledger Effect Effect.Program

section folds
variable {con : Consumer} {fuel : Nat} {σ α : Type} {step : σ → α → Consuming σ} {dlqErr : σ → Option Error}

/-- Once `dlqErr` is set, the callbacks return at once. -/
theorem foldlM_skips (skips : ∀ state item, (dlqErr state).isSome → step state item = pure state) (items : List α)
    (state : σ) (set : (dlqErr state).isSome) : items.foldlM step state = pure state := by
  induction items with
  | nil => rfl
  | cons item items ih =>
    rw [List.foldlM_cons,skips state item set]
    exact ih

theorem foldlM_outcome (recordsOf : α → List Record)
    (skips : ∀ state item, (dlqErr state).isSome → step state item = pure state)
    (each : ∀ state item, dlqErr state = none → ∀ events result, Trace (step state item).run events result →
      Outcome con fuel (recordsOf item) events (result.map dlqErr))
    (items : List α) (state : σ) (alive : dlqErr state = none) (events : List Event) (result : Option σ)
    (trace : Trace (items.foldlM step state).run events result) :
    Outcome con fuel (items.flatMap recordsOf) events (result.map dlqErr) := by
  induction items generalizing state events with
  | nil =>
    cases trace
    rw [Option.map_some,alive]
    exact .handled .nil
  | cons item items ih =>
    rw [List.foldlM_cons] at trace
    rcases Trace.unrolled_bind _ _ _ _ trace with ⟨rfl,cut⟩ | ⟨before,after,next,rfl,head,rest⟩
    · cases each state item alive _ _ cut with
      | cut clean short => exact .cut clean short
    have first := each state item alive _ _ head
    rw [Option.map_some] at first
    cases left : dlqErr next with
    | none =>
      rw [left] at first
      cases first with
      | handled all => exact .after all (ih next left after rest)
    | some err =>
      rw [foldlM_skips skips items next (by simp [left])] at rest
      cases rest
      rw [left] at first
      rw [Option.map_some,left,List.append_nil]
      cases first with
      | stopped clean failing gauges err => exact .stopped clean failing gauges err

end folds

/-- The records of a poll, in the order in which the callbacks visit them. -/
def Fetches.records (fetches : Fetches) : List Record := fetches.partitions.flatMap (·.records)

theorem Handles.reports {con : Consumer} {records : List Record} {events reports : List Event}
    (handles : Handles con records events) (gauges : ∀ event ∈ reports, event.1.Gauge) :
    Handles con records (events ++ reports) := by
  have silent : Handles con [] reports := by
    induction reports with
    | nil => exact .nil
    | cons event reports ih =>
      exact .report (gauges event (by simp)) (ih fun later member => gauges later (by simp [member]))
  simpa using handles.append silent

theorem Outcome.report {con : Consumer} {fuel : Nat} {records : List Record} {events : List Event}
    {dlqErr : Option Error} {event : Event} (outcome : Outcome con fuel records events (some dlqErr))
    (gauge : event.1.Gauge) : Outcome con fuel records (events ++ [event]) (some dlqErr) := by
  cases outcome with
  | handled all => simpa using Outcome.handled (all.append (.report gauge .nil))
  | stopped clean failing gauges err =>
    rw [List.append_assoc,List.append_assoc]
    refine .stopped clean failing ?_ err
    intro later member
    rcases List.mem_append.mp member with earlier | last
    · exact gauges later earlier
    · rwa [List.mem_singleton.mp last]

theorem reportLag_trace (con : Consumer) (poll : PollState) (partition : FetchPartition) (batch : BatchState)
    (events : List Event) (result : Option PollState)
    (trace : Trace (con.reportLag poll partition batch).run events result) :
    result.map (·.dlqErr) = some batch.dlqErr ∧ (events = [] ∨ ∃ event : Event, events = [event] ∧ event.1.Gauge) := by
  by_cases reported : batch.sawRecord && con.metrics
  · rw [Consumer.reportLag,if_pos reported] at trace
    obtain ⟨answer,rest,rfl,observed⟩ := Trace.unrolled_ask _ _ _ _ trace
    cases observed
    exact ⟨rfl,Or.inr ⟨_,rfl,trivial⟩⟩
  · rw [Consumer.reportLag,if_neg reported] at trace
    cases trace
    exact ⟨rfl,Or.inl rfl⟩

theorem stopOn_trace (err : Error) (events : List Event) (result : Option (Unit ⊕ Option Error))
    (trace : Trace (Consumer.stopOn err).run events result) :
    ∃ answer outcome, events = [⟨.ctxErr,answer⟩] ∧ result = some (.inr outcome) ∧
      (outcome = none → ∃ cause, answer = some cause) := by
  obtain ⟨answer,rest,rfl,looked⟩ := Trace.unrolled_ask _ _ _ _ trace
  cases answer with
  | some cause =>
    cases looked
    exact ⟨some cause,none,rfl,rfl,fun _ => ⟨cause,rfl⟩⟩
  | none =>
    cases looked
    exact ⟨none,some err,rfl,rfl,fun impossible => nomatch impossible⟩

/-- A report is made if there are metrics, and then the rest. -/
theorem report_trace {α : Type} (metrics : Bool) (counts : List (Bytes × Int32)) (tail : Consuming α)
    (events : List Event) (result : Option α)
    (trace : Trace (if metrics = true then observeActiveConsumers counts >>= fun _ => tail else tail).run
      events result) :
    ∃ reports rest, events = reports ++ rest ∧ (∀ event ∈ reports, event.1.Gauge) ∧ Trace tail.run rest result := by
  by_cases reported : metrics = true
  · rw [if_pos reported] at trace
    obtain ⟨answer,rest,rfl,after⟩ := Trace.unrolled_ask _ _ _ _ trace
    exact ⟨[_],rest,rfl,by simp [ConsumerCall.Gauge],after⟩
  · rw [if_neg reported] at trace
    exact ⟨[],events,rfl,by simp,trace⟩

/-- The end of a poll: a report if there are metrics, and a return if `dlqErr` is set. -/
theorem endPoll_trace (con : Consumer) (poll : PollState) (events : List Event)
    (result : Option (Unit ⊕ Option Error)) (trace : Trace (con.endPoll poll).run events result) :
    ∃ reports rest, events = reports ++ rest ∧ (∀ event ∈ reports, event.1.Gauge) ∧
      (poll.dlqErr = none ∧ rest = [] ∧ result = some (.inl ()) ∨
        ∃ err, poll.dlqErr = some err ∧ Trace (Consumer.stopOn err).run rest result) := by
  rw [Consumer.endPoll] at trace
  obtain ⟨reports,rest,rfl,gauges,tail⟩ := report_trace con.metrics poll.activePartitions _ events result trace
  cases left : poll.dlqErr with
  | none =>
    rw [left] at tail
    cases tail
    exact ⟨reports,[],rfl,gauges,Or.inl ⟨rfl,rfl,rfl⟩⟩
  | some err =>
    rw [left] at tail
    exact ⟨reports,rest,rfl,gauges,Or.inr ⟨err,rfl,tail⟩⟩

namespace ConsumerCall

/-- A call that neither polls, reconciles nor publishes. -/
def Quiet : ConsumerCall → Prop
  | .ctxErr | .observeLag _ _ | .observeActiveConsumers _ => True
  | _ => False

theorem Gauge.quiet {call : ConsumerCall} (gauge : call.Gauge) : call.Quiet := by
  cases call <;> trivial

end ConsumerCall

/-- The ways one round of `Run` can go, from its poll on. -/
inductive Polled (con : Consumer) (fuel : Nat) : List Event → Option (Unit ⊕ Option Error) → Prop
  | complete (fetches : Fetches) (events : List Event) (sound : fetches.errors = [])
      (all : Handles con fetches.records events) :
      Polled con fuel (⟨.pollRecords con.maxPollRecords,fetches⟩::⟨.ctxErr,none⟩::events) (some (.inl ()))
  | ended (fetches : Fetches) (events : List Event) (clean : Clean events) (outcome : Option Error) :
      Polled con fuel (⟨.pollRecords con.maxPollRecords,fetches⟩::events) (some (.inr outcome))
  | failed (fetches : Fetches) (done failing after : List Event) (clean : Clean done) (failed : FailedPublish failing)
      (quiet : ∀ event ∈ after, event.1.Quiet) (outcome : Option Error)
      (cancelled : outcome = none → ∃ cause, ⟨.ctxErr,some cause⟩ ∈ after) :
      Polled con fuel (⟨.pollRecords con.maxPollRecords,fetches⟩::(done ++ (failing ++ after))) (some (.inr outcome))
  | cut (fetches : Fetches) (events : List Event) (clean : Clean events) (short : fuel ≤ con.attemptLimit) :
      Polled con fuel (⟨.pollRecords con.maxPollRecords,fetches⟩::events) none

section runs
variable {con : Consumer} (nonnegative : 0 ≤ con.maxRetries.toInt)
  (bounded : ∀ value txn, con.decode value = .ok txn → con.maxRetries.toInt+1 < maxInt)

include nonnegative bounded in
theorem eachPartition_outcome (fuel : Nat) (poll : PollState) (partition : FetchPartition)
    (alive : poll.dlqErr = none) (events : List Event) (result : Option PollState)
    (trace : Trace (con.eachPartition fuel poll partition).run events result) :
    Outcome con fuel partition.records events (result.map (·.dlqErr)) := by
  rw [Consumer.eachPartition,if_neg (by simp [alive])] at trace
  have records : ∀ events result,
      Trace (partition.records.foldlM (con.eachRecord fuel) ⟨none,[],0,false⟩).run events result →
      Outcome con fuel partition.records events (result.map (·.dlqErr)) := by
    intro events result trace
    have folded := foldlM_outcome (fun record => [record])
      (fun batch record set => if_pos set)
      (fun batch record => eachRecord_outcome nonnegative bounded fuel batch record)
      partition.records ⟨none,[],0,false⟩ rfl events result trace
    simpa using folded
  rcases Trace.unrolled_bind _ _ _ _ trace with ⟨rfl,cut⟩ | ⟨before,after,batch,rfl,head,rest⟩
  · exact records _ _ cut
  have handled := records _ _ head
  obtain ⟨same,silent | ⟨event,reported,gauge⟩⟩ := reportLag_trace _ _ _ _ _ _ rest
  · rwa [same,silent,List.append_nil]
  · rw [same,reported]
    exact handled.report gauge

include nonnegative bounded in
theorem partitions_outcome (fuel : Nat) (fetches : Fetches) (events : List Event) (result : Option PollState)
    (trace : Trace (fetches.partitions.foldlM (con.eachPartition fuel) ⟨none,[]⟩).run events result) :
    Outcome con fuel fetches.records events (result.map (·.dlqErr)) :=
  foldlM_outcome (·.records) (fun _ _ set => if_pos set)
    (fun poll partition => eachPartition_outcome nonnegative bounded fuel poll partition)
    fetches.partitions ⟨none,[]⟩ rfl events result trace

include nonnegative bounded in
theorem pollOnce_polled (fuel : Nat) (events : List Event) (result : Option (Unit ⊕ Option Error))
    (trace : Trace (con.pollOnce fuel).run events result) : Polled con fuel events result := by
  obtain ⟨fetches,rest,rfl,polled⟩ := Trace.unrolled_ask _ _ _ _ trace
  cases errors : fetches.errors with
  | cons first others =>
    rw [errors] at polled
    obtain ⟨answer,outcome,rfl,rfl,_⟩ := stopOn_trace _ _ _ polled
    exact .ended fetches [⟨.ctxErr,answer⟩] (.step trivial .nil) outcome
  | nil =>
    rw [errors] at polled
    obtain ⟨answer,rest,rfl,looked⟩ := Trace.unrolled_ask _ _ _ _ polled
    cases answer with
    | some cause =>
      cases looked
      exact .ended fetches [⟨.ctxErr,some cause⟩] (.step trivial .nil) none
    | none =>
      rcases Trace.unrolled_bind _ _ _ _ looked with ⟨rfl,cut⟩ | ⟨before,after,poll,rfl,visited,rest⟩
      · cases partitions_outcome nonnegative bounded fuel fetches _ _ cut with
        | cut clean short => exact .cut fetches _ (.step trivial clean) short
      have outcome := partitions_outcome nonnegative bounded fuel fetches _ _ visited
      obtain ⟨reports,last,rfl,gauges,settled⟩ := endPoll_trace _ _ _ _ rest
      rw [Option.map_some] at outcome
      rcases settled with ⟨left,rfl,rfl⟩ | ⟨err,left,stopping⟩
      · rw [left] at outcome
        cases outcome with
        | handled all => exact .complete fetches _ errors (by simpa using all.reports gauges)
      · rw [left] at outcome
        obtain ⟨answer,returned,rfl,rfl,cancelled⟩ := stopOn_trace _ _ _ stopping
        cases outcome with
        | @stopped done failed earlier clean failing lagged =>
          rw [List.append_assoc,List.append_assoc]
          refine .failed fetches (⟨.ctxErr,none⟩::done) failed (earlier ++ (reports ++ [⟨.ctxErr,answer⟩]))
            (.step trivial clean) failing ?_ returned ?_
          · intro event member
            simp only [List.mem_append,List.mem_singleton] at member
            rcases member with lag | report | rfl
            · exact (lagged event lag).quiet
            · exact (gauges event report).quiet
            · exact trivial
          · intro stopped
            obtain ⟨cause,rfl⟩ := cancelled stopped
            exact ⟨cause,by simp⟩

end runs

/-- Complete rounds: each poll without errors is followed by the handling of its records. -/
inductive Rounds (con : Consumer) : List Event → Prop
  | nil : Rounds con []
  | round {fetches : Fetches} {events later : List Event} (sound : fetches.errors = [])
      (all : Handles con fetches.records events) (rest : Rounds con later) :
      Rounds con (⟨.pollRecords con.maxPollRecords,fetches⟩::⟨.ctxErr,none⟩::(events ++ later))

/-- The event at which a publication fails, with what follows it: the broker refuses the
record, or `publishToDLQ` has read the clock and sends nothing. -/
inductive Failing : Event → List Event → Prop
  | rejected (record : ProducedRecord) (cause : Error) (after : List Event) :
      Failing ⟨.produceSync record,some cause⟩ after
  | unsent (failedAt : Time) (after : List Event)
      (nothing : ∀ record answer rest, after ≠ ⟨.produceSync record,answer⟩::rest) : Failing ⟨.now,failedAt⟩ after

/-- What the calls of a run have to satisfy, with the value it returns if it does. -/
structure Accounted (con : Consumer) (events : List Event) (result : Option (Option Error)) : Prop where
  polled : ∀ before size fetches after, events = before ++ ⟨.pollRecords size,fetches⟩::after → Rounds con before
  stopped : ∀ before event after, events = before ++ event::after → Failing event after →
    (∀ later ∈ after, later.1.Quiet) ∧
      ∃ outcome, result = some outcome ∧ (outcome = none → ∃ cause, ⟨.ctxErr,some cause⟩ ∈ after)

/-- The events that `Accounted` speaks about. -/
def Pivotal (event : Event) (after : List Event) : Prop :=
  (∃ size fetches, event = ⟨.pollRecords size,fetches⟩) ∨ Failing event after

theorem Pivotal.not_calm {event : Event} {after : List Event} (pivotal : Pivotal event after) : ¬event.1.Calm := by
  rcases pivotal with ⟨size,fetches,rfl⟩ | failing
  · exact fun calm => calm
  · cases failing with
    | rejected => exact fun calm => calm
    | unsent => exact fun calm => calm

/-- Reading the clock for a record that is then sent is no such event. -/
theorem not_pivotal_sending {failedAt : Time} {record : ProducedRecord} {answer : Option Error} {after : List Event} :
    ¬Pivotal ⟨.now,failedAt⟩ (⟨.produceSync record,answer⟩::after) := by
  intro pivotal
  rcases pivotal with ⟨_,_,impossible⟩ | failing
  · cases impossible
  · cases failing with
    | unsent _ _ nothing => exact absurd rfl (nothing _ _ _)

/-- No such event is among clean calls, so a split at one leaves them in front. -/
theorem Clean.before_pivotal {events : List Event} (clean : Clean events) {later before after : List Event}
    {event : Event} (parts : events ++ later = before ++ event::after) (pivotal : Pivotal event after) :
    ∃ more, before = events ++ more ∧ later = more ++ event::after := by
  induction clean generalizing before with
  | nil => exact ⟨before,rfl,parts⟩
  | step calm _ ih =>
    cases before with
    | nil =>
      cases parts
      exact absurd calm pivotal.not_calm
    | cons first before =>
      obtain ⟨rfl,tails⟩ := List.cons.inj parts
      obtain ⟨more,rfl,split⟩ := ih tails
      exact ⟨more,rfl,split⟩
  | publish _ ih =>
    rcases before with _ | ⟨first,_ | ⟨second,before⟩⟩
    · cases parts
      exact absurd pivotal not_pivotal_sending
    · cases parts
      rcases pivotal with ⟨_,_,impossible⟩ | failing
      · cases impossible
      · cases failing
    · obtain ⟨rfl,tails⟩ := List.cons.inj parts
      obtain ⟨rfl,others⟩ := List.cons.inj tails
      obtain ⟨more,rfl,split⟩ := ih others
      exact ⟨more,rfl,split⟩

/-- A round's poll is no failure, and what `Accounted` asks of it is that nothing is open. -/
theorem after_poll {size : Int64} {fetches : Fetches} {rest before after : List Event} {event : Event}
    (parts : ⟨.pollRecords size,fetches⟩::rest = before ++ event::after) (pivotal : Pivotal event after) :
    (before = [] ∧ ¬Failing event after) ∨
      ∃ inner, before = ⟨.pollRecords size,fetches⟩::inner ∧ rest = inner ++ event::after := by
  cases before with
  | nil =>
    cases parts
    exact Or.inl ⟨rfl,fun failing => nomatch failing⟩
  | cons first inner =>
    obtain ⟨rfl,tails⟩ := List.cons.inj parts
    exact Or.inr ⟨inner,rfl,tails⟩

section accounts
variable {con : Consumer} {size : Int64} {fetches : Fetches} {events later : List Event}
  {result : Option (Option Error)}

theorem Accounted.nil : Accounted con [] result :=
  ⟨fun before _ _ _ parts => by simp at parts,fun before _ _ parts => by simp at parts⟩

theorem Accounted.last (clean : Clean events) : Accounted con (⟨.pollRecords size,fetches⟩::events) result := by
  have only : ∀ before event after, ⟨.pollRecords size,fetches⟩::events = before ++ event::after →
      Pivotal event after → before = [] ∧ ¬Failing event after := by
    intro before event after parts pivotal
    refine (after_poll parts pivotal).resolve_right ?_
    rintro ⟨inner,_,split⟩
    rw [← List.append_nil events] at split
    obtain ⟨more,_,impossible⟩ := clean.before_pivotal split pivotal
    simp at impossible
  refine ⟨?_,?_⟩
  · intro before again other after parts
    obtain ⟨rfl,_⟩ := only before _ after parts (Or.inl ⟨again,other,rfl⟩)
    exact .nil
  · intro before event after parts failing
    exact absurd failing (only before event after parts (Or.inr failing)).2

theorem Accounted.round (sound : fetches.errors = []) (all : Handles con fetches.records events)
    (rest : Accounted con later result) :
    Accounted con (⟨.pollRecords con.maxPollRecords,fetches⟩::⟨.ctxErr,none⟩::(events ++ later)) result := by
  have clean : Clean (⟨.ctxErr,none⟩::events) := .step trivial all.clean
  have inside : ∀ before event after,
      ⟨.pollRecords con.maxPollRecords,fetches⟩::⟨.ctxErr,none⟩::(events ++ later) = before ++ event::after →
      Pivotal event after → (before = [] ∧ ¬Failing event after) ∨
        ∃ more, before = ⟨.pollRecords con.maxPollRecords,fetches⟩::⟨.ctxErr,none⟩::(events ++ more) ∧
          later = more ++ event::after := by
    intro before event after parts pivotal
    rcases after_poll parts pivotal with first | ⟨inner,rfl,split⟩
    · exact Or.inl first
    · obtain ⟨more,rfl,following⟩ := clean.before_pivotal split pivotal
      exact Or.inr ⟨more,rfl,following⟩
  refine ⟨?_,?_⟩
  · intro before again other after parts
    rcases inside before _ after parts (Or.inl ⟨again,other,rfl⟩) with ⟨rfl,_⟩ | ⟨more,rfl,split⟩
    · exact .nil
    · exact .round sound all (rest.polled more again other after split)
  · intro before event after parts failing
    rcases inside before event after parts (Or.inr failing) with ⟨_,sent⟩ | ⟨more,rfl,split⟩
    · exact absurd failing sent
    · exact rest.stopped more event after split failing

/-- Quiet calls hold no such event. -/
theorem not_pivotal_of_quiet (quiet : ∀ event ∈ events, event.1.Quiet) {before after : List Event} {event : Event}
    (parts : events = before ++ event::after) : ¬Pivotal event after := by
  intro pivotal
  have silent : event.1.Quiet := quiet event (by simp [parts])
  rcases pivotal with ⟨_,_,rfl⟩ | failing
  · exact silent
  · cases failing with
    | rejected => exact silent
    | unsent => exact silent

/-- After a failed publication there is one such event, the failure. -/
theorem FailedPublish.pivotal {failing after before rest : List Event} {event : Event} (failed : FailedPublish failing)
    (quiet : ∀ event ∈ after, event.1.Quiet) (parts : failing ++ after = before ++ event::rest)
    (pivotal : Pivotal event rest) : Failing event rest ∧ rest = after := by
  cases failed with
  | rejected failedAt record cause =>
    rcases before with _ | ⟨first,_ | ⟨second,before⟩⟩
    · cases parts
      exact absurd pivotal not_pivotal_sending
    · cases parts
      exact ⟨.rejected record cause after,rfl⟩
    · obtain ⟨_,tails⟩ := List.cons.inj parts
      obtain ⟨_,others⟩ := List.cons.inj tails
      exact absurd pivotal (not_pivotal_of_quiet quiet others)
  | unmarshalled failedAt =>
    cases before with
    | nil =>
      cases parts
      refine ⟨.unsent failedAt after ?_,rfl⟩
      rintro record answer rest rfl
      exact quiet _ List.mem_cons_self
    | cons first before =>
      obtain ⟨_,tails⟩ := List.cons.inj parts
      exact absurd pivotal (not_pivotal_of_quiet quiet tails)

theorem Accounted.failed {done failing after : List Event} (clean : Clean done) (failed : FailedPublish failing)
    (quiet : ∀ event ∈ after, event.1.Quiet) {outcome : Option Error}
    (cancelled : outcome = none → ∃ cause, ⟨.ctxErr,some cause⟩ ∈ after) :
    Accounted con (⟨.pollRecords size,fetches⟩::(done ++ (failing ++ after))) (some outcome) := by
  have inside : ∀ before event rest,
      ⟨.pollRecords size,fetches⟩::(done ++ (failing ++ after)) = before ++ event::rest →
      Pivotal event rest → (before = [] ∧ ¬Failing event rest) ∨ Failing event rest ∧ rest = after := by
    intro before event rest parts pivotal
    rcases after_poll parts pivotal with first | ⟨inner,rfl,split⟩
    · exact Or.inl first
    · obtain ⟨more,rfl,following⟩ := clean.before_pivotal split pivotal
      exact Or.inr (failed.pivotal quiet following pivotal)
  refine ⟨?_,?_⟩
  · intro before again other rest parts
    rcases inside before _ rest parts (Or.inl ⟨again,other,rfl⟩) with ⟨rfl,_⟩ | ⟨impossible,_⟩
    · exact .nil
    · cases impossible
  · intro before event rest parts failing
    rcases inside before event rest parts (Or.inr failing) with ⟨_,sent⟩ | ⟨_,rfl⟩
    · exact absurd failing sent
    · exact ⟨quiet,outcome,rfl,cancelled⟩

end accounts

def tally (weight : Event → Nat) (events : List Event) : Nat := (events.map weight).sum

section tallies
variable (weight : Event → Nat)

@[simp] theorem tally_nil : tally weight [] = 0 := rfl

@[simp] theorem tally_cons (event : Event) (events : List Event) :
    tally weight (event::events) = weight event+tally weight events := List.sum_cons

@[simp] theorem tally_append (events more : List Event) :
    tally weight (events ++ more) = tally weight events+tally weight more := by
  simp [tally]

end tallies

@[simp] def Event.polls : Event → Nat
  | ⟨.pollRecords _,_⟩ => 1
  | _ => 0

/-- Clean calls weigh nothing in a count of polls. -/
theorem Clean.tally_zero {weight : Event → Nat} {events : List Event} (clean : Clean events)
    (unpolled : ∀ event : Event, (∀ size, event.1 ≠ .pollRecords size) → weight event = 0) :
    tally weight events = 0 := by
  induction clean with
  | nil => rfl
  | @step event rest calm _ ih =>
    rw [tally_cons,ih,unpolled]
    intro size same
    rw [same] at calm
    exact calm
  | publish _ ih => simp [ih,unpolled]

theorem Event.polls_zero (event : Event) (other : ∀ size, event.1 ≠ .pollRecords size) : event.polls = 0 := by
  rcases event with ⟨call,answer⟩
  cases call with
  | pollRecords size => exact absurd rfl (other size)
  | _ => rfl

theorem run_accounted {con : Consumer} (nonnegative : 0 ≤ con.maxRetries.toInt)
    (bounded : ∀ value txn, con.decode value = .ok txn → con.maxRetries.toInt+1 < maxInt) (retries fuel : Nat)
    (events : List Event) (result : Option (Option Error))
    (trace : Trace (loop (fun _ => con.pollOnce retries) fuel ()).run events result) :
    Accounted con events result ∧
      (result = none → con.attemptLimit < retries → tally Event.polls events = fuel) := by
  induction fuel generalizing events with
  | zero =>
    cases trace
    exact ⟨.nil,fun _ _ => rfl⟩
  | succ fuel ih =>
    rcases Trace.unrolled_bind _ _ _ _ trace with ⟨rfl,cut⟩ | ⟨before,after,next,rfl,once,rest⟩
    · cases pollOnce_polled nonnegative bounded retries _ _ cut with
      | cut fetches events clean short => exact ⟨.last clean,fun _ enough => absurd short (Nat.not_le.mpr enough)⟩
    cases pollOnce_polled nonnegative bounded retries _ _ once with
    | complete fetches events sound all =>
      obtain ⟨accounted,counted⟩ := ih after rest
      refine ⟨.round sound all accounted,?_⟩
      intro cut enough
      simp only [List.cons_append,tally_cons,tally_append,all.clean.tally_zero Event.polls_zero,
        counted cut enough,Event.polls]
      omega
    | ended fetches events clean outcome =>
      cases rest
      rw [List.append_nil]
      exact ⟨.last clean,fun impossible => nomatch impossible⟩
    | failed fetches done failing later clean failed quiet outcome cancelled =>
      cases rest
      rw [List.append_nil]
      exact ⟨.failed clean failed quiet cancelled,fun impossible => nomatch impossible⟩

section counts
variable {con : Consumer}

@[simp] def Event.attempts : Event → Nat
  | ⟨.reconcile _,_⟩ => 1
  | _ => 0

@[simp] def Event.fetched : Event → Nat
  | ⟨.pollRecords _,fetches⟩ => (Fetches.records fetches).length
  | _ => 0

theorem failures_attempts (txn : Transaction) (errors : List Error) :
    tally Event.attempts (failures txn errors) = errors.length := by
  induction errors with
  | nil => rfl
  | cons err errors ih =>
    change 1+(0+tally Event.attempts (failures txn errors)) = errors.length+1
    rw [ih]
    omega

theorem Tried.attempts {txn : Transaction} {limit : Nat} {events : List Event} {outcome : Int64 × Option Error}
    (tried : Tried txn limit events outcome) : tally Event.attempts events ≤ limit := by
  cases tried with
  | reconciled errors within => simpa [failures_attempts] using Nat.succ_le_of_lt within
  | interrupted errors err cause within => simpa [failures_attempts] using Nat.succ_le_of_lt within
  | exhausted errors err all => simp [failures_attempts,all]

theorem Published.attempts {record : Record} {err : Error} {attempts : Int64} {events : List Event}
    (published : Published con record err attempts events) : tally Event.attempts events = 0 := by
  cases published with
  | acknowledged => rfl

theorem Handled.attempts {record : Record} {events : List Event} (handled : Handled con record events) :
    tally Event.attempts events ≤ con.attemptLimit := by
  cases handled with
  | reconciled txn _ _ attempts tried => exact tried.attempts
  | undecodable err _ _ published => simp [published.attempts]
  | failed txn _ attempts err _ _ tried published => simpa [published.attempts] using tried.attempts

theorem Handles.attempts {records : List Record} {events : List Event} (handles : Handles con records events) :
    tally Event.attempts events ≤ records.length*con.attemptLimit := by
  induction handles with
  | nil => simp
  | @record record records events rest head _ ih =>
    rw [tally_append,List.length_cons,Nat.succ_mul,Nat.add_comm]
    exact Nat.add_le_add ih head.attempts
  | @report event records rest gauge _ ih =>
    rcases event with ⟨call,answer⟩
    cases call with
    | observeLag => simpa using ih
    | observeActiveConsumers => simpa using ih
    | _ => exact absurd gauge id

theorem Event.fetched_zero (event : Event) (other : ∀ size, event.1 ≠ .pollRecords size) : event.fetched = 0 := by
  rcases event with ⟨call,answer⟩
  cases call with
  | pollRecords size => exact absurd rfl (other size)
  | _ => rfl

/-- Complete rounds make at most `maxRetries+1` attempts for each record they fetched. -/
theorem Rounds.attempts {events : List Event} (rounds : Rounds con events) :
    tally Event.attempts events ≤ tally Event.fetched events*con.attemptLimit := by
  induction rounds with
  | nil => simp
  | @round fetches events later _ all _ ih =>
    have here := all.attempts
    simp only [tally_cons,tally_append,Event.attempts,Event.fetched,all.clean.tally_zero Event.fetched_zero,
      Nat.zero_add,Nat.add_mul]
    exact Nat.add_le_add here ih

end counts

section overrun
variable {con : Consumer} {txn : Transaction}

theorem retryRound_fails {attempt : Int64} (within : attempt ≤ con.maxRetries+1) (lastErr : Option Error)
    (err : Error) :
    Trace (con.retryRound txn (attempt,lastErr)).run [⟨.reconcile txn,Except.error err⟩,⟨.ctxErr,none⟩]
      (some (.inl (attempt+1,some err))) := by
  rw [Consumer.retryRound,if_pos within]
  refine Trace.asked _ ?_
  exact Trace.asked _ (.done _)

theorem retryRound_succeeds {attempt : Int64} (within : attempt ≤ con.maxRetries+1) (lastErr : Option Error) :
    Trace (con.retryRound txn (attempt,lastErr)).run [⟨.reconcile txn,Except.ok ()⟩] (some (.inr (attempt,none))) := by
  rw [Consumer.retryRound,if_pos within]
  exact Trace.asked _ (.done _)

/-- Where no counter exceeds the bound, any number of failures can precede the success. -/
theorem retries_overrun (always : ∀ attempt : Int64, attempt ≤ con.maxRetries+1) (errors : List Error) (fuel : Nat)
    (enough : errors.length < fuel) (attempt : Int64) (lastErr : Option Error) :
    ∃ attempts, Trace (loop (con.retryRound txn) fuel (attempt,lastErr)).run
      (failures txn errors ++ [⟨.reconcile txn,Except.ok ()⟩]) (some (attempts,none)) := by
  induction errors generalizing fuel attempt lastErr with
  | nil =>
    cases fuel with
    | zero => simp at enough
    | succ fuel =>
      exact ⟨attempt,(retryRound_succeeds (always attempt) lastErr).loop_ends⟩
  | cons err errors ih =>
    cases fuel with
    | zero => simp at enough
    | succ fuel =>
      obtain ⟨attempts,rest⟩ := ih fuel (by simpa using enough) (attempt+1) (some err)
      have whole := (retryRound_fails (always attempt) lastErr err).loop_goes_on rest
      exact ⟨attempts,whole⟩

theorem reportLag_runs (con : Consumer) (poll : PollState) (partition : FetchPartition) (batch : BatchState) :
    ∃ reports after, Trace (con.reportLag poll partition batch).run reports (some after) ∧
      after.dlqErr = batch.dlqErr ∧ ∀ event ∈ reports, event.1.Gauge := by
  by_cases reported : batch.sawRecord && con.metrics
  · rw [Consumer.reportLag,if_pos reported]
    exact ⟨_,_,.call () (.done _),rfl,by simp [ConsumerCall.Gauge]⟩
  · rw [Consumer.reportLag,if_neg reported]
    exact ⟨[],_,.done _,rfl,by simp⟩

theorem endPoll_runs (con : Consumer) (poll : PollState) (alive : poll.dlqErr = none) :
    ∃ reports, Trace (con.endPoll poll).run reports (some (.inl ())) ∧ ∀ event ∈ reports, event.1.Gauge := by
  by_cases reported : con.metrics
  · rw [Consumer.endPoll,if_pos reported,alive]
    exact ⟨_,.call () (.done _),by simp [ConsumerCall.Gauge]⟩
  · rw [Consumer.endPoll,if_neg reported,alive]
    exact ⟨[],.done _,by simp⟩

/-- A poll of one record with the given payload. -/
def oneRecord (value : Bytes) : Fetches := ⟨[],[⟨1,[⟨[],0,0,[],value⟩]⟩]⟩

theorem partitions_overrun {fuel : Nat} {value : Bytes} {tries : List Event} {attempts : Int64}
    (decoded : con.decode value = .ok txn)
    (tried : Trace (con.reconcileWithRetry fuel txn).run tries (some (attempts,none))) :
    ∃ reports poll, Trace ((oneRecord value).partitions.foldlM (con.eachPartition fuel) ⟨none,[]⟩).run
      (tries ++ reports) (some poll) ∧ poll.dlqErr = none ∧ ∀ event ∈ reports, event.1.Gauge := by
  have each : Trace (con.eachRecord fuel ⟨none,[],0,false⟩ ⟨[],0,0,[],value⟩).run tries
      (some ⟨none,txn.tenantID,0,true⟩) := by
    rw [Consumer.eachRecord,if_neg (by simp),decoded]
    exact Trace.unrolled_last tried (.done _)
  obtain ⟨reports,poll,reported,alive,gauges⟩ :=
    reportLag_runs con ⟨none,[]⟩ ⟨1,[⟨[],0,0,[],value⟩]⟩ ⟨none,txn.tenantID,0,true⟩
  refine ⟨reports,poll,?_,alive,gauges⟩
  refine Trace.unrolled_last ?_ (.done _)
  rw [Consumer.eachPartition,if_neg (by simp)]
  exact Trace.unrolled_append (Trace.unrolled_last each (.done _)) reported

theorem pollOnce_overrun {fuel : Nat} {value : Bytes} {tries : List Event} {attempts : Int64}
    (decoded : con.decode value = .ok txn)
    (tried : Trace (con.reconcileWithRetry fuel txn).run tries (some (attempts,none))) :
    ∃ reports, (∀ event ∈ reports, event.1.Gauge) ∧ Trace (con.pollOnce fuel).run
      (⟨.pollRecords con.maxPollRecords,oneRecord value⟩::⟨.ctxErr,none⟩::(tries ++ reports)) (some (.inl ())) := by
  obtain ⟨lags,poll,visited,alive,gauges⟩ := partitions_overrun decoded tried
  obtain ⟨counts,ended,others⟩ := endPoll_runs con poll alive
  refine ⟨lags ++ counts,?_,?_⟩
  · intro event member
    exact (List.mem_append.mp member).elim (gauges event) (others event)
  · refine Trace.asked _ (Trace.asked _ ?_)
    rw [← List.append_assoc]
    exact Trace.unrolled_append visited ended

theorem cancelled_poll (fuel : Nat) (cause : Error) : Trace (con.pollOnce fuel).run
    [⟨.pollRecords con.maxPollRecords,⟨[],[]⟩⟩,⟨.ctxErr,some cause⟩] (some (.inr none)) := by
  refine Trace.asked _ ?_
  exact Trace.asked _ (.done _)

/-- Where the bound is the largest integer the loop's condition never fails, so a record can
be tried more often than `maxRetries+1` times before it is reconciled. -/
theorem run_overruns (bound : con.maxRetries.toInt+1 = maxInt) (value : Bytes) (decoded : con.decode value = .ok txn) :
    ∃ fuel events result, Trace (con.run fuel).run events result ∧ ¬Accounted con events result := by
  have always : ∀ attempt : Int64, attempt ≤ con.maxRetries+1 := by
    intro attempt
    have small := attempt.toInt_lt
    rw [Int64.le_iff_toInt_le,add64]
    all_goals simp only [FitsInt64,maxInt,Int64.toInt_one] at *
    all_goals omega
  have err : Error := .new "reconcile"
  obtain ⟨attempts,tried⟩ :=
    @retries_overrun con txn always (List.replicate con.attemptLimit err) (con.attemptLimit+2) (by simp) 1 none
  obtain ⟨reports,gauges,first⟩ := pollOnce_overrun decoded tried
  refine ⟨con.attemptLimit+2,_,some none,Trace.loop_goes_on first (Trace.loop_ends (cancelled_poll _ err)),?_⟩
  intro accounted
  have rounds := accounted.polled _ _ _ _ rfl
  have most := rounds.attempts
  have silent : Handles con [] reports := Handles.nil.reports gauges
  have clean := (failures_clean txn (List.replicate con.attemptLimit err)).tally_zero Event.fetched_zero
  have one : (oneRecord value).records.length = 1 := rfl
  simp [failures_attempts,clean,silent.clean.tally_zero Event.fetched_zero,one] at most

end overrun

theorem run_accounts_iff (con : Consumer) (nonnegative : 0 ≤ con.maxRetries.toInt)
    (bounded : con.maxRetries.toInt < maxInt) :
    (∀ fuel events result, Trace (con.run fuel).run events result →
      Accounted con events result ∧
        (result = none → con.attemptLimit < fuel → tally Event.polls events = fuel)) ↔
      ∀ value txn, con.decode value = .ok txn → con.maxRetries.toInt+1 < maxInt := by
  refine ⟨?_,?_⟩
  · intro accounts value txn decoded
    by_contra beyond
    obtain ⟨fuel,events,result,trace,lost⟩ := run_overruns (by omega) value decoded
    exact lost (accounts fuel events result trace).1
  · intro small fuel events result trace
    exact run_accounted nonnegative small fuel fuel events result trace

/-- A consumer for which every payload is the same trade. -/
def sampleConsumer (maxRetries : Int64) : Consumer where
  dlqTopic := text "transactions.dlq"
  maxRetries
  maxPollRecords := 500
  metrics := true
  decode := fun _ => .ok (sampleTrade "tenant-a" 7 sideBuy 100 1000)
  marshal := fun event => .ok event.payload
  errorText := fun _ => []
  formatTime := fun _ => []

theorem default_retries_account :
    (0 ≤ (sampleConsumer 3).maxRetries.toInt ∧ (sampleConsumer 3).maxRetries.toInt+1 < maxInt) ∧
      ∀ fuel events result, Trace ((sampleConsumer 3).run fuel).run events result →
        Accounted (sampleConsumer 3) events result ∧
          (result = none → (sampleConsumer 3).attemptLimit < fuel → tally Event.polls events = fuel) := by
  have small : (sampleConsumer 3).maxRetries.toInt+1 < maxInt := by decide
  refine ⟨⟨by decide,small⟩,?_⟩
  exact (run_accounts_iff (sampleConsumer 3) (by decide) (by decide)).mpr fun _ _ _ => small

/-- One below the largest integer. -/
def largestRetries : Int64 := 9223372036854775806

theorem largest_retries_overrun : (0 ≤ largestRetries.toInt ∧ largestRetries.toInt < maxInt) ∧
    ∃ fuel events result, Trace ((sampleConsumer largestRetries).run fuel).run events result ∧
      ¬Accounted (sampleConsumer largestRetries) events result := by
  refine ⟨by decide,?_⟩
  exact run_overruns (by decide) [] rfl

end ControlPlane.Processor.Kafka
